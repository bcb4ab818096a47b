import NetworkPlugin.Json.Numeral
import NetworkPlugin.Proofs.Except
import NetworkPlugin.Proofs.Json.Rendering

/-!
# Whole numbers read back

The digits of a number are read as long as there are any, and have the value of the number
again.  A number that fits into 64 bits is whole, and no digit of it is left out.
-/

namespace NetworkPlugin.Json

open Text

/-! ## Digits -/

inductive IsDecimal : Nat → List Nat → Prop
  | digit {number} (small : number < 10) : IsDecimal number [number]
  | more {number digits} (large : 10 ≤ number) (front : IsDecimal (number / 10) digits) :
      IsDecimal number (digits ++ [number % 10])

theorem exists_isDecimal (number : Nat) : ∃ digits, IsDecimal number digits := by
  induction number using Nat.strongRecOn with
  | ind number ih =>
      by_cases small : number < 10
      · exact ⟨[number], .digit small⟩
      · obtain ⟨digits, front⟩ := ih (number / 10) (by omega)
        exact ⟨digits ++ [number % 10], .more (by omega) front⟩

theorem digit?_digitChar {digit : Nat} (small : digit < 10) :
    digit? (UInt8.ofNat (Nat.digitChar digit).toNat) = some digit := by
  have all : ∀ digit : Fin 10,
      digit? (UInt8.ofNat (Nat.digitChar digit.val).toNat) = some digit.val := by decide
  exact all ⟨digit, small⟩

theorem exists_of_isSome_digit? {byte : UInt8} (known : (digit? byte).isSome = true) :
    ∃ digit : Fin 10, byte = UInt8.ofNat (0x30 + digit.val) := by
  unfold digit? at known
  split at known
  · next bounds =>
      have low := UInt8.le_iff_toNat_le.mp bounds.1
      have high := UInt8.le_iff_toNat_le.mp bounds.2
      simp only [UInt8.reduceToNat] at low high
      refine ⟨⟨byte.toNat - 0x30, by omega⟩, ?_⟩
      rw [Nat.add_sub_cancel' low, UInt8.ofNat_toNat]
  · cases known

theorem utf8_digitChar {digit : Nat} (small : digit < 10) :
    utf8 [Nat.digitChar digit] = [UInt8.ofNat (Nat.digitChar digit).toNat] := by
  have all : ∀ digit : Fin 10, (Nat.digitChar digit.val).toNat < 0x80 := by decide
  exact utf8_cons_of_ascii (all ⟨digit, small⟩) []

namespace IsDecimal

variable {number : Nat} {digits : List Nat}

theorem readDigits_eq (decimal : IsDecimal number digits) (found : List Nat)
    (rest : List UInt8) (offset : Nat) :
    ∃ stop, readDigits found (utf8 (encodeNumeral 10 number) ++ rest) offset =
      readDigits (digits.reverse ++ found) rest stop := by
  induction decimal generalizing found rest offset with
  | digit small =>
      refine ⟨offset + 1, ?_⟩
      rw [encodeNumeral, Nat.toDigits_of_lt_base small, utf8_digitChar small,
        List.singleton_append, readDigits, digit?_digitChar small]
      rfl
  | @more number digits large front ih =>
      have below : number % 10 < 10 := Nat.mod_lt _ (by decide)
      obtain ⟨stop, read⟩ := ih found (utf8 [Nat.digitChar (number % 10)] ++ rest) offset
      refine ⟨stop + 1, ?_⟩
      rw [encodeNumeral, Nat.toDigits_of_base_le (by decide) large, utf8_append,
        List.append_assoc]
      refine read.trans ?_
      rw [utf8_digitChar below, List.singleton_append, readDigits, digit?_digitChar below]
      simp

theorem takeDigits_append {start leading digit : Nat} {front : List Nat}
    (taken : takeDigits start front = (leading, []))
    (fits : leading * 10 + digit < significandBound) :
    takeDigits start (front ++ [digit]) = (leading * 10 + digit, []) := by
  induction front generalizing start with
  | nil =>
      cases taken
      rw [List.nil_append, takeDigits, if_pos fits, takeDigits]
  | cons first front ih =>
      rw [takeDigits] at taken
      split at taken
      · next below =>
          rw [List.cons_append, takeDigits, if_pos below]
          exact ih taken
      · cases taken

theorem takeDigits_eq (decimal : IsDecimal number digits) (fits : number < significandBound) :
    takeDigits 0 digits = (number, []) := by
  induction decimal with
  | digit small =>
      rw [takeDigits, Nat.zero_mul, Nat.zero_add, if_pos fits, takeDigits]
  | @more number digits large front ih =>
      have value : number / 10 * 10 + number % 10 = number := Nat.div_add_mod' number 10
      have taken : takeDigits 0 (digits ++ [number % 10]) = (number / 10 * 10 + number % 10, []) :=
        takeDigits_append (ih (by omega)) (by omega)
      rwa [value] at taken

theorem exists_first (decimal : IsDecimal number digits) :
    ∃ byte rest, utf8 (encodeNumeral 10 number) = byte :: rest ∧ (digit? byte).isSome = true := by
  induction decimal with
  | digit small =>
      refine ⟨_, [], ?_, by rw [digit?_digitChar small]; rfl⟩
      rw [encodeNumeral, Nat.toDigits_of_lt_base small, utf8_digitChar small]
  | @more number digits large front ih =>
      obtain ⟨byte, rest, written, known⟩ := ih
      refine ⟨byte, rest ++ utf8 [Nat.digitChar (number % 10)], ?_, known⟩
      rw [encodeNumeral, Nat.toDigits_of_base_le (by decide) large, utf8_append]
      exact congrArg (· ++ _) written

theorem exists_head (decimal : IsDecimal number digits) :
    ∃ first others, digits = first :: others ∧ (0 < number → 0 < first) := by
  induction decimal with
  | @digit number small => exact ⟨number, [], rfl, id⟩
  | @more number digits large front ih =>
      obtain ⟨first, others, rfl, positive⟩ := ih
      exact ⟨first, others ++ [number % 10], rfl, fun _ => positive (by omega)⟩

end IsDecimal

/-! ## Numerals -/

def EndsNumeral (rest : List UInt8) : Prop :=
  ∀ byte ∈ rest.head?, digit? byte = none ∧ byte ≠ 0x2e ∧ byte ≠ 0x65 ∧ byte ≠ 0x45

variable {rest : List UInt8}

theorem readDigits_of_endsNumeral (ends : EndsNumeral rest) (found : List Nat) (offset : Nat) :
    readDigits found rest offset = (found.reverse, ⟨rest, offset⟩) := by
  cases rest with
  | nil => rfl
  | cons byte rest => rw [readDigits, (ends byte rfl).1]

theorem readFraction_of_endsNumeral (ends : EndsNumeral rest) (offset : Nat) :
    readFraction ⟨rest, offset⟩ = .ok (none, ⟨rest, offset⟩) := by
  unfold readFraction
  split
  · next behind same =>
      have first : rest = 0x2e :: behind := same
      exact absurd rfl (ends 0x2e (by rw [first]; rfl)).2.1
  · rfl

theorem readExponent_of_endsNumeral (ends : EndsNumeral rest) (offset : Nat) :
    readExponent ⟨rest, offset⟩ = .ok (none, ⟨rest, offset⟩) := by
  cases rest with
  | nil => rfl
  | cons byte rest =>
      have other : ¬ (byte = 0x65 ∨ byte = 0x45) := not_or.mpr (ends byte rfl).2.2
      simp only [readExponent, if_neg other]

theorem readInteger_of_isDecimal {number : Nat} {digits : List Nat}
    (decimal : IsDecimal number digits) {cursor after : Cursor}
    (read : readDigits [] cursor.rest cursor.offset = (digits, after)) :
    readInteger cursor = .ok (digits, after) := by
  simp only [readInteger, read]
  obtain ⟨first, others, same, positive⟩ := decimal.exists_head
  cases decimal with
  | digit small => cases number <;> rfl
  | more large front =>
      obtain ⟨digit, rfl⟩ := Nat.exists_eq_succ_of_ne_zero (Nat.ne_of_gt (positive (by omega)))
      rw [same]
      rfl

theorem readNumeral_encodeNumeral (ends : EndsNumeral rest) (number : Nat) (negative : Bool)
    (offset : Nat) :
    ∃ digits stop, IsDecimal number digits ∧
      readNumeral negative ⟨utf8 (encodeNumeral 10 number) ++ rest, offset⟩ =
        .ok (⟨negative, digits, none, none⟩, ⟨rest, stop⟩) := by
  obtain ⟨digits, decimal⟩ := exists_isDecimal number
  obtain ⟨stop, read⟩ := decimal.readDigits_eq [] rest offset
  rw [List.append_nil, readDigits_of_endsNumeral ends, List.reverse_reverse] at read
  have integer : readInteger ⟨utf8 (encodeNumeral 10 number) ++ rest, offset⟩ =
      .ok (digits, ⟨rest, stop⟩) := readInteger_of_isDecimal decimal read
  refine ⟨digits, stop, decimal, ?_⟩
  simp only [readNumeral, integer, Except.ok_bind, readFraction_of_endsNumeral ends,
    readExponent_of_endsNumeral ends]
  rfl

theorem value_of_isDecimal {number : Nat} {digits : List Nat} (decimal : IsDecimal number digits)
    (fits : number < significandBound) (negative : Bool) (stop : Nat) :
    Numeral.value ⟨negative, digits, none, none⟩ stop =
      Numeral.whole ⟨negative, digits, none, none⟩ number stop := by
  simp only [Numeral.value, decimal.takeDigits_eq fits]

/-! ## Whole numbers -/

theorem readNumeral_whole (ends : EndsNumeral rest) {value : Int}
    (low : -0x8000000000000000 ≤ value) (high : value < 0x10000000000000000) (offset : Nat) :
    ∃ numeral stop,
      readNumeral (decide (value < 0)) ⟨utf8 (encodeNumeral 10 value.natAbs) ++ rest, offset⟩ =
        .ok (numeral, ⟨rest, stop⟩) ∧
      ∀ place, numeral.value place = .ok (.whole value low high) := by
  obtain ⟨digits, stop, decimal, read⟩ :=
    readNumeral_encodeNumeral ends value.natAbs (decide (value < 0)) offset
  refine ⟨_, stop, read, fun place => ?_⟩
  rw [value_of_isDecimal decimal (by simp only [significandBound]; omega), Numeral.whole]
  by_cases negative : value < 0
  · have size : -(value.natAbs : Int) = value := by omega
    simp only [negative, decide_true, if_true]
    rw [dif_pos (by omega)]
    simp only [size]
  · have size : (value.natAbs : Int) = value := by omega
    simp only [negative, decide_false, Bool.false_eq_true, if_false]
    rw [dif_pos (by omega)]
    simp only [size]

end NetworkPlugin.Json
