import NetworkPlugin.Json.Pieces
import NetworkPlugin.Proofs.Except
import NetworkPlugin.Proofs.Json.Rendering

/-!
# Strings read back

Every character of a text is written as bytes that are cut into pieces of their own, and
these pieces stand for the bytes of the character.  Both laws compose, so that a text is
found again behind its quotation mark.
-/

namespace NetworkPlugin.Json

open Text

/-! ## Pieces -/

/-- What is written is cut into pieces that stand for what is meant, whatever comes before
and behind. -/
def Spells (written meant : List UInt8) : Prop :=
  ∀ (done : List (Piece × Nat)) (rest : List UInt8) (offset : Nat),
    ∃ pieces : List (Piece × Nat),
      readPieces done (written ++ rest) offset =
        readPieces (pieces.reverse ++ done) rest (offset + written.length) ∧
      ∀ ending found more, piecesToBytes ending found (pieces ++ more) =
        piecesToBytes ending (meant.reverse ++ found) more

theorem Spells.nil : Spells [] [] := by
  intro done rest offset
  exact ⟨[], rfl, fun _ _ _ => rfl⟩

theorem Spells.append {written meant more others : List UInt8} (first : Spells written meant)
    (second : Spells more others) : Spells (written ++ more) (meant ++ others) := by
  intro done rest offset
  obtain ⟨pieces, cut, stand⟩ := first done (more ++ rest) offset
  obtain ⟨behind, cutBehind, standBehind⟩ :=
    second (pieces.reverse ++ done) rest (offset + written.length)
  refine ⟨pieces ++ behind, ?_, ?_⟩
  · rw [List.append_assoc, cut, cutBehind, List.reverse_append, List.append_assoc,
      List.length_append, Nat.add_assoc]
  · intro ending found rest
    rw [List.append_assoc, stand, standBehind, List.reverse_append, List.append_assoc]

def IsPlain (byte : UInt8) : Prop := byte ≠ 0x22 ∧ byte ≠ 0x5c ∧ ¬ byte < 0x20

theorem spells_plain {byte : UInt8} (plain : IsPlain byte) : Spells [byte] [byte] := by
  intro done rest offset
  refine ⟨[(.byte byte, offset + 1)], ?_, fun _ _ _ => rfl⟩
  rw [List.singleton_append, readPieces.eq_def]
  simp only [if_neg plain.1, if_neg plain.2.1, if_neg plain.2.2]
  rfl

theorem spells_allPlain {bytes : List UInt8} (plain : ∀ byte ∈ bytes, IsPlain byte) :
    Spells bytes bytes := by
  induction bytes with
  | nil => exact .nil
  | cons byte bytes ih =>
      have first := spells_plain (plain byte List.mem_cons_self)
      exact first.append (ih fun other member => plain other (List.mem_cons_of_mem _ member))

theorem spells_escape {mark value : UInt8} (other : mark ≠ 0x75)
    (known : escapeValue? mark = some value) : Spells [0x5c, mark] [value] := by
  intro done rest offset
  refine ⟨[(.escaped value, offset + 2)], ?_, fun _ _ _ => rfl⟩
  simp only [List.cons_append, List.nil_append]
  rw [readPieces.eq_def]
  simp only [if_neg other, known]
  rfl

theorem spells_unit {a b c d : UInt8} {value : Nat} (known : hexUnit? a b c d = some value)
    (below : value < 0xd800) : Spells [0x5c, 0x75, a, b, c, d] (encodeUtf8 value) := by
  intro done rest offset
  refine ⟨[(.unit value, offset + 6)], ?_, ?_⟩
  · simp only [List.cons_append, List.nil_append]
    rw [readPieces.eq_def]
    simp only [known]
    rfl
  · intro ending found more
    have alone : isTrailing value = false ∧ isLeading value = false := by
      simp only [isTrailing, isLeading, Bool.and_eq_false_iff, decide_eq_false_iff_not]
      omega
    rw [List.singleton_append, piecesToBytes.eq_def]
    simp only [alone, Bool.false_eq_true, if_false]

/-! ## Characters -/

theorem le_of_mem_utf8EncodeChar {c : Char} (wide : 0x80 ≤ c.toNat) {byte : UInt8}
    (member : byte ∈ String.utf8EncodeChar c) : 0x80 ≤ byte := by
  have large {number : Nat} (low : 0x80 ≤ number) (high : number < 0x100) :
      0x80 ≤ UInt8.ofNat number := by
    rw [UInt8.le_iff_toNat_le, UInt8.toNat_ofNat', Nat.mod_eq_of_lt high]
    exact low
  have value : c.val.toNat = c.toNat := rfl
  simp only [String.utf8EncodeChar] at member
  split at member
  · omega
  split at member
  · simp only [List.mem_cons, List.not_mem_nil, or_false] at member
    rcases member with rfl | rfl <;> exact large (by omega) (by omega)
  split at member
  · simp only [List.mem_cons, List.not_mem_nil, or_false] at member
    rcases member with rfl | rfl | rfl <;> exact large (by omega) (by omega)
  · simp only [List.mem_cons, List.not_mem_nil, or_false] at member
    rcases member with rfl | rfl | rfl | rfl <;> exact large (by omega) (by omega)

theorem isPlain_of_mem_utf8EncodeChar {c : Char} (quote : c ≠ '"') (slash : c ≠ '\\')
    (printed : 0x20 ≤ c.toNat) {byte : UInt8} (member : byte ∈ String.utf8EncodeChar c) :
    IsPlain byte := by
  by_cases ascii : c.toNat < 0x80
  · rw [utf8EncodeChar_of_ascii ascii, List.mem_singleton] at member
    have value : byte.toNat = c.toNat := by
      rw [member, UInt8.toNat_ofNat', Nat.mod_eq_of_lt (by omega)]
    have differs {other : Char} (apart : c ≠ other) : byte.toNat ≠ other.toNat :=
      fun same => apart (Char.toNat_inj.mp (value.symm.trans same))
    refine ⟨fun same => differs quote ?_, fun same => differs slash ?_, ?_⟩
    · rw [same]
      rfl
    · rw [same]
      rfl
    · rw [UInt8.lt_iff_toNat_lt, value]
      exact Nat.not_lt.mpr printed
  · have large := le_of_mem_utf8EncodeChar (Nat.le_of_not_lt ascii) member
    rw [UInt8.le_iff_toNat_le] at large
    refine ⟨?_, ?_, ?_⟩
    · rintro rfl
      exact absurd large (by decide)
    · rintro rfl
      exact absurd large (by decide)
    · rw [UInt8.lt_iff_toNat_lt]
      exact Nat.not_lt.mpr (Nat.le_trans (by decide) large)

theorem hexUnit?_control {number : Nat} (small : number < 0x20) :
    hexUnit? 0x30 0x30 (UInt8.ofNat (Nat.digitChar (number / 16)).toNat)
      (UInt8.ofNat (Nat.digitChar (number % 16)).toNat) = some number := by
  have all : ∀ number : Fin 0x20,
      hexUnit? 0x30 0x30 (UInt8.ofNat (Nat.digitChar (number.val / 16)).toNat)
        (UInt8.ofNat (Nat.digitChar (number.val % 16)).toNat) = some number.val := by decide
  exact all ⟨number, small⟩

theorem toNat_digitChar_lt {digit : Nat} (small : digit < 16) :
    (Nat.digitChar digit).toNat < 0x80 := by
  have all : ∀ digit : Fin 16, (Nat.digitChar digit.val).toNat < 0x80 := by decide
  exact all ⟨digit, small⟩

theorem spells_control {c : Char} (small : c.toNat < 0x20) :
    Spells (utf8 ['\\', 'u', '0', '0', Nat.digitChar (c.toNat / 16),
      Nat.digitChar (c.toNat % 16)]) (String.utf8EncodeChar c) := by
  have spelled := spells_unit (hexUnit?_control small) (by omega)
  rw [encodeUtf8, Char.ofNat_toNat] at spelled
  rw [utf8_cons_of_ascii (by decide), utf8_cons_of_ascii (by decide),
    utf8_cons_of_ascii (by decide), utf8_cons_of_ascii (by decide),
    utf8_cons_of_ascii (toNat_digitChar_lt (by omega)),
    utf8_cons_of_ascii (toNat_digitChar_lt (by omega))]
  exact spelled

theorem spells_encodeChar (c : Char) : Spells (utf8 (encodeChar c)) (String.utf8EncodeChar c) := by
  unfold encodeChar
  split
  · exact spells_escape (by decide) rfl
  · exact spells_escape (by decide) rfl
  · exact spells_escape (by decide) rfl
  · exact spells_escape (by decide) rfl
  · exact spells_escape (by decide) rfl
  · exact spells_escape (by decide) rfl
  · exact spells_escape (by decide) rfl
  · next quote slash _ _ _ _ _ =>
      split
      · next small => exact spells_control small
      · next printed =>
          rw [utf8_cons, utf8_nil, List.append_nil]
          exact spells_allPlain fun byte member =>
            isPlain_of_mem_utf8EncodeChar quote slash (Nat.le_of_not_lt printed) member

theorem spells_text (text : List Char) : Spells (utf8 (text.flatMap encodeChar)) (utf8 text) := by
  induction text with
  | nil => exact .nil
  | cons c text ih =>
      rw [List.flatMap_cons, utf8_append, utf8_cons]
      exact (spells_encodeChar c).append ih

/-! ## Strings -/

theorem piecesToText_of_bytes {pieces : List (Piece × Nat)} {after : Cursor} {text : String}
    (stand : piecesToBytes (.closed after) [] pieces = .ok (utf8 text.toList)) :
    piecesToText pieces after = .ok text := by
  simp only [piecesToText, stand, Except.ok_bind, fromUTF8?_utf8]

/-- A string is read up to its end, and stands for its text. -/
theorem readString_encodeString (text : String) (rest : List UInt8) (offset : Nat) :
    ∃ stop, readString ⟨utf8 (text.toList.flatMap encodeChar ++ ['"']) ++ rest, offset⟩ =
      .ok (.ok text, ⟨rest, stop⟩) := by
  obtain ⟨pieces, cut, stand⟩ := spells_text text.toList [] (0x22 :: rest) offset
  refine ⟨offset + (utf8 (text.toList.flatMap encodeChar)).length + 1, ?_⟩
  have ended : readPieces [] (utf8 (text.toList.flatMap encodeChar) ++ 0x22 :: rest) offset =
      (pieces.reverse, .closed
        ⟨rest, offset + (utf8 (text.toList.flatMap encodeChar)).length + 1⟩) := by
    rw [cut, List.append_nil, readPieces.eq_def]
    rfl
  have meant (after : Cursor) :
      piecesToBytes (.closed after) [] pieces = .ok (utf8 text.toList) := by
    rw [← List.append_nil pieces, stand, List.append_nil, piecesToBytes, List.reverse_reverse]
  have quoted : utf8 (text.toList.flatMap encodeChar ++ ['"']) ++ rest =
      utf8 (text.toList.flatMap encodeChar) ++ 0x22 :: rest := by
    rw [utf8_append, List.append_assoc]
    rfl
  simp only [readString, quoted, ended, List.reverse_reverse, piecesToText_of_bytes (meant _)]

end NetworkPlugin.Json
