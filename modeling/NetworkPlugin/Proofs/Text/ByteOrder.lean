import Mathlib.Tactic.SplitIfs
import NetworkPlugin.Proofs.Json.Rendering

/-!
# Order of texts and of their bytes

Texts are ordered by their characters, and their bytes come in the same order.  Two
characters are told apart by the first bytes in which they differ: the leading ones if one
of them takes more bytes, and otherwise the first digit in base 64 that is not the same.
-/

namespace NetworkPlugin.Text

theorem ofNat_cons_lt {one other : Nat} (small : one < 0x100) (smallToo : other < 0x100)
    (rest more : List UInt8) :
    UInt8.ofNat one :: rest < UInt8.ofNat other :: more ↔
      one < other ∨ one = other ∧ rest < more := by
  rw [List.cons_lt_cons_iff, UInt8.lt_iff_toNat_lt, ← UInt8.toNat_inj, UInt8.toNat_ofNat',
    UInt8.toNat_ofNat', Nat.mod_eq_of_lt small, Nat.mod_eq_of_lt smallToo]

theorem toNat_val_lt (c : Char) : c.val.toNat < 0x110000 := by
  rcases c.valid with low | high
  · exact Nat.lt_trans low (by decide)
  · exact high.2

theorem utf8EncodeChar_append_lt {c d : Char} (less : c < d) (rest more : List UInt8) :
    String.utf8EncodeChar c ++ rest < String.utf8EncodeChar d ++ more := by
  have below : c.val.toNat < d.val.toNat := less
  have range := toNat_val_lt d
  have twoDigits (number : Nat) : number / 4096 = number / 64 / 64 := by omega
  have threeDigits (number : Nat) : number / 262144 = number / 64 / 64 / 64 := by omega
  unfold String.utf8EncodeChar
  simp only [twoDigits, threeDigits]
  -- One case for each two lengths; the larger character is not the shorter one.
  split_ifs
  all_goals try omega
  all_goals
    simp (disch := omega) only [List.cons_append, List.nil_append, ofNat_cons_lt]
    omega

theorem utf8_lt_utf8 {text other : List Char} (less : text < other) : utf8 text < utf8 other := by
  induction less with
  | @nil c other =>
      obtain ⟨byte, bytes, encoded⟩ :=
        List.exists_cons_of_ne_nil (String.utf8EncodeChar_ne_nil (c := c))
      rw [utf8_cons, encoded, List.cons_append]
      exact List.nil_lt_cons byte _
  | @cons c text other less ih =>
      rw [utf8_cons, utf8_cons]
      exact List.append_left_lt ih
  | @rel c text d other less =>
      rw [utf8_cons, utf8_cons]
      exact utf8EncodeChar_append_lt less _ _

theorem toUTF8_lt_toUTF8 {text other : String} (less : text < other) :
    text.toUTF8.toList < other.toUTF8.toList := by
  rw [toList_toUTF8, toList_toUTF8]
  exact utf8_lt_utf8 (String.lt_iff.mp less)

end NetworkPlugin.Text
