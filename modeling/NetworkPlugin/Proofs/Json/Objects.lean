import NetworkPlugin.Proofs.Json.Levels

/-!
# Texts that are objects

A text is an object if it is read as one to its end, with nothing behind it.  Its members are
inside of one container, and there is a brace in it, so that it is not blank.
-/

namespace NetworkPlugin.Json

section

variable {opening : Opening} {members : List (Key × Doc)} {tail : Tail}

theorem literalDoc_ne_object {value : Nat → Doc}
    (other : ∀ stop, value stop ≠ .object opening members tail) (read : Except Fault Cursor) :
    (literalDoc value read).1 ≠ .object opening members tail := by
  cases read with
  | ok after => exact other after.offset
  | error fault => simp [literalDoc]

theorem numeralDoc_ne_object (read : Except Break (Numeral × Cursor)) :
    (numeralDoc read).1 ≠ .object opening members tail := by
  cases read <;> simp [numeralDoc]

theorem stringDoc_ne_object (read : Except Break (Except Fault String × Cursor)) :
    (stringDoc read).1 ≠ .object opening members tail := by
  cases read <;> simp [stringDoc]

theorem containerDoc_ne_object {container : Tail → Doc}
    (other : ∀ stop, container stop ≠ .object opening members tail)
    (read : Except (Break × Fault) Cursor) :
    (containerDoc container read).1 ≠ .object opening members tail := by
  cases read with
  | ok after => exact other _
  | error reason => exact other _

theorem exists_brace_of_readValue {fuel level : Nat} {cursor : Cursor}
    (read : (readValue fuel level cursor).1 = .object opening members tail) :
    ∃ byte ∈ cursor.rest, character byte = '\x7b' := by
  rw [readValue.eq_def] at read
  cases fuel with
  | zero => cases read
  | succ fuel =>
      dsimp only at read
      split at read
      · cases read
      · next byte rest starts =>
          rw [starts]
          refine ⟨byte, List.mem_cons_self, ?_⟩
          split at read
          · exact absurd read (literalDoc_ne_object (by simp) _)
          · exact absurd read (literalDoc_ne_object (by simp) _)
          · exact absurd read (literalDoc_ne_object (by simp) _)
          · exact absurd read (stringDoc_ne_object _)
          · exact absurd read (numeralDoc_ne_object _)
          · exact absurd read (containerDoc_ne_object (by simp) _)
          · next brace => exact brace
          · split at read
            · exact absurd read (numeralDoc_ne_object _)
            · cases read

end

theorem rest_skipBlanks_subset (rest : List UInt8) (offset : Nat) :
    (skipBlanks rest offset).rest ⊆ rest := by
  induction rest generalizing offset with
  | nil => simp [skipBlanks]
  | cons byte rest ih =>
      rw [skipBlanks]
      split
      · exact List.subset_cons_of_subset _ (ih _)
      · exact List.Subset.refl _

/-! ## Whole texts -/

def IsObject (text : List UInt8) (members : List (Key × Doc)) : Prop :=
  ∃ opening stop, Document.ofBytes text = ⟨.object opening members (.closed stop), none⟩

theorem IsObject.exists_level {text : List UInt8} {members : List (Key × Doc)}
    (isObject : IsObject text members) :
    ∃ opening stop, Document.ofBytes text = ⟨.object opening members (.closed stop), none⟩ ∧
      opening.level = 1 := by
  obtain ⟨opening, stop, parsed⟩ := isObject
  have placed := placed_ofBytes text
  rw [parsed] at placed
  cases placed with
  | object opened => exact ⟨opening, stop, parsed, opened⟩

theorem IsObject.exists_brace {text : List UInt8} {members : List (Key × Doc)}
    (isObject : IsObject text members) : ∃ byte ∈ text, character byte = '\x7b' := by
  obtain ⟨opening, stop, parsed⟩ := isObject
  have read : (readValue (fuelFor text) 0 (Cursor.blanks ⟨text, 0⟩)).1 =
      .object opening members (.closed stop) := by
    have root := congrArg Document.root parsed
    unfold Document.ofBytes at root
    split at root <;> next found => rw [found]; exact root
  obtain ⟨byte, listed, brace⟩ := exists_brace_of_readValue read
  exact ⟨byte, rest_skipBlanks_subset text 0 listed, brace⟩

end NetworkPlugin.Json
