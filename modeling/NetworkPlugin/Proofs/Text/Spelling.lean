import Mathlib.Data.List.Forall2
import Mathlib.Data.List.Induction
import NetworkPlugin.Text.Fields
import NetworkPlugin.Text.Numeral

/-!
# Spelled numbers

Which texts are numerals of which number, said without reading them, and that exactly these
are read.  Fields are what is found between separators of a text.
-/

namespace NetworkPlugin.Text

/-! ## Fields -/

theorem not_mem_of_mem_split {separator : Char} {text field : List Char}
    (member : field ∈ split separator text) : separator ∉ field := by
  induction text generalizing field with
  | nil =>
      rw [split, List.mem_singleton] at member
      simp [member]
  | cons c rest ih =>
      unfold split at member
      split at member
      · rcases List.mem_cons.mp member with rfl | later
        · exact List.not_mem_nil
        · exact ih later
      · next differ =>
          cases fields : split separator rest with
          | nil => exact absurd fields (split_ne_nil separator rest)
          | cons first others =>
              rw [fields, consField] at member
              rw [fields] at ih
              rcases List.mem_cons.mp member with rfl | later
              · have absent := ih List.mem_cons_self
                rw [List.mem_cons, not_or]
                exact ⟨Ne.symm differ, absent⟩
              · exact ih (List.mem_cons_of_mem _ later)

theorem split_eq_iff {separator : Char} {text : List Char} {fields : List (List Char)} :
    split separator text = fields ↔
      fields ≠ [] ∧ (∀ field ∈ fields, separator ∉ field) ∧ text = join separator fields := by
  constructor
  · rintro rfl
    exact ⟨split_ne_nil separator text, fun field => not_mem_of_mem_split,
      (join_split separator text).symm⟩
  · rintro ⟨nonempty, absent, rfl⟩
    exact split_join nonempty absent

theorem mapM_eq_some {Value Result : Type} {f : Value → Option Result} {values : List Value}
    {results : List Result} :
    values.mapM f = some results ↔
      List.Forall₂ (fun value result => f value = some result) values results := by
  induction values generalizing results with
  | nil => simp [eq_comm]
  | cons value values ih =>
      simp only [List.mapM_cons, Option.bind_eq_bind, Option.bind_eq_some_iff, ih,
        List.forall₂_cons_left_iff]
      constructor
      · rintro ⟨result, first, others, rest, made⟩
        cases made
        exact ⟨result, others, first, rest, rfl⟩
      · rintro ⟨result, others, first, rest, rfl⟩
        exact ⟨result, first, others, rest, rfl⟩

theorem exists_of_forall₂_of_mem {Value Result : Type} {R : Value → Result → Prop}
    {values : List Value} {results : List Result} (related : List.Forall₂ R values results)
    {value : Value} (member : value ∈ values) : ∃ result ∈ results, R value result := by
  induction related with
  | nil => cases member
  | cons first others ih =>
      rcases List.mem_cons.mp member with rfl | later
      · exact ⟨_, List.mem_cons_self, first⟩
      · obtain ⟨result, listed, here⟩ := ih later
        exact ⟨result, List.mem_cons_of_mem _ listed, here⟩

/-! ## Digits -/

/-- The character of a digit below a base; letters have either case. -/
def IsDigit (base : Nat) (c : Char) (digit : Nat) : Prop :=
  digit < base ∧ (c = digit.digitChar ∨ c = digit.digitChar.toUpper)

theorem toNat_lt_of_digitValue? {c : Char} {digit : Nat} (read : digitValue? c = some digit) :
    c.toNat < 128 := by
  have below {last : Char} (small : last.toNat < 128) (bound : c ≤ last) : c.toNat < 128 :=
    Nat.lt_of_le_of_lt (UInt32.le_iff_toNat_le.mp bound) small
  unfold digitValue? at read
  split at read
  · next range => exact below (by decide) range.2
  split at read
  · next range => exact below (by decide) range.2
  split at read
  · next range => exact below (by decide) range.2
  · cases read

theorem digitValue?_eq_some_iff {c : Char} {digit : Nat} :
    digitValue? c = some digit ↔ IsDigit 16 c digit := by
  constructor
  · intro read
    have all : ∀ code : Fin 128, ∀ digit ∈ digitValue? (Char.ofNat code),
        digit < 16 ∧ (Char.ofNat code = digit.digitChar ∨
          Char.ofNat code = digit.digitChar.toUpper) := by
      decide +kernel
    have here := all ⟨c.toNat, toNat_lt_of_digitValue? read⟩ digit
    rw [Char.ofNat_toNat] at here
    exact here read
  · rintro ⟨small, written⟩
    have all : ∀ digit : Fin 16, digitValue? (Nat.digitChar digit) = some digit.val ∧
        digitValue? (Nat.digitChar digit).toUpper = some digit.val := by
      decide
    rcases written with rfl | rfl
    · exact (all ⟨digit, small⟩).1
    · exact (all ⟨digit, small⟩).2

theorem pushDigit?_eq_some_iff {base number result : Nat} {c : Char} (high : base ≤ 16) :
    pushDigit? base number c = some result ↔
      ∃ digit, IsDigit base c digit ∧ result = number * base + digit := by
  unfold pushDigit?
  simp only [Option.bind_eq_some_iff, digitValue?_eq_some_iff, IsDigit]
  constructor
  · rintro ⟨digit, ⟨-, written⟩, read⟩
    split at read
    · next small =>
        cases read
        exact ⟨digit, ⟨small, written⟩, rfl⟩
    · cases read
  · rintro ⟨digit, ⟨small, written⟩, rfl⟩
    exact ⟨digit, ⟨by omega, written⟩, if_pos small⟩

/-! ## Numerals -/

inductive Spells (base : Nat) : List Char → Nat → Prop
  | digit {c digit} (last : IsDigit base c digit) : Spells base [c] digit
  | push {text number c digit} (front : Spells base text number) (last : IsDigit base c digit) :
      Spells base (text ++ [c]) (number * base + digit)

theorem push_lt {base number digit bound : Nat} (front : number < bound) (last : digit < base) :
    number * base + digit < bound * base :=
  calc
    _ < number * base + base := by omega
    _ = (number + 1) * base := (Nat.succ_mul _ _).symm
    _ ≤ bound * base := Nat.mul_le_mul_right _ front

namespace Spells

variable {base number : Nat} {text : List Char}

theorem ne_nil (spelled : Spells base text number) : text ≠ [] := by
  cases spelled <;> simp

theorem lt_pow (spelled : Spells base text number) :
    number < Nat.pow base text.length := by
  induction spelled with
  | digit last => simpa using last.1
  | push front last ih =>
      rw [List.length_append, List.length_singleton, Nat.pow_eq, Nat.pow_succ]
      exact push_lt ih last.1

theorem exists_digit_of_mem (spelled : Spells base text number) {c : Char} (member : c ∈ text) :
    ∃ digit, IsDigit base c digit := by
  induction spelled with
  | digit last =>
      rw [List.mem_singleton] at member
      exact ⟨_, member ▸ last⟩
  | push front last ih =>
      rcases List.mem_append.mp member with before | here
      · exact ih before
      · rw [List.mem_singleton] at here
        exact ⟨_, here ▸ last⟩

theorem not_mem (spelled : Spells base text number) (high : base ≤ 16) {c : Char}
    (noDigit : digitValue? c = none) : c ∉ text := by
  intro member
  obtain ⟨digit, small, written⟩ := spelled.exists_digit_of_mem member
  rw [digitValue?_eq_some_iff.mpr ⟨Nat.lt_of_lt_of_le small high, written⟩] at noDigit
  cases noDigit

end Spells

theorem decodeNumeral?_append_singleton (base : Nat) (text : List Char) (c : Char) :
    decodeNumeral? base (text ++ [c]) =
      (if text = [] then some 0 else decodeNumeral? base text).bind (pushDigit? base · c) := by
  unfold decodeNumeral?
  rw [if_neg (by simp), List.foldlM_append]
  by_cases empty : text = []
  · simp [empty]
  · simp [empty]

theorem decodeNumeral?_eq_some_iff {base : Nat} (high : base ≤ 16) {text : List Char}
    {number : Nat} : decodeNumeral? base text = some number ↔ Spells base text number := by
  induction text using List.reverseRecOn generalizing number with
  | nil =>
      constructor
      · intro read
        cases read
      · intro spelled
        exact absurd rfl spelled.ne_nil
  | append_singleton text c ih =>
      rw [decodeNumeral?_append_singleton]
      constructor
      · intro read
        obtain ⟨front, readFront, push⟩ := Option.bind_eq_some_iff.mp read
        obtain ⟨digit, last, rfl⟩ := (pushDigit?_eq_some_iff high).mp push
        split at readFront
        · next empty =>
            cases readFront
            subst empty
            simpa using Spells.digit last
        · exact .push (ih.mp readFront) last
      · generalize whole : text ++ [c] = all
        intro spelled
        cases spelled with
        | digit last =>
            obtain ⟨rfl, same⟩ := List.append_eq_singleton_iff.mp whole |>.resolve_right (by simp)
            cases same
            simpa using (pushDigit?_eq_some_iff high).mpr ⟨_, last, by simp⟩
        | push front last =>
            obtain ⟨rfl, same⟩ := List.append_inj' whole rfl
            cases same
            rw [if_neg front.ne_nil, ih.mpr front]
            exact (pushDigit?_eq_some_iff high).mpr ⟨_, last, rfl⟩

end NetworkPlugin.Text
