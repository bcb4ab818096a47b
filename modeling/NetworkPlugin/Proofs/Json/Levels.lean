import NetworkPlugin.Json.Reader

/-!
# Levels of documents

Every container knows how many containers it is in.  A document that was read says so
correctly at every depth, faults or not, so that one can tell from where a value stands
how deep it may nest.
-/

namespace NetworkPlugin.Json

inductive Doc.Placed : Nat → Doc → Prop
  | null {level stop} : Placed level (.null stop)
  | bool {level value stop} : Placed level (.bool value stop)
  | number {level value stop} : Placed level (.number value stop)
  | string {level value stop} : Placed level (.string value stop)
  | array {level opening items tail} (opened : opening.level = level + 1)
      (placed : ∀ item ∈ items, Placed (level + 1) item.2) :
      Placed level (.array opening items tail)
  | object {level opening members tail} (opened : opening.level = level + 1)
      (placed : ∀ member ∈ members, Placed (level + 1) member.2) :
      Placed level (.object opening members tail)
  | broken {level reason} : Placed level (.broken reason)

open Doc

theorem placed_literalDoc {value : Nat → Doc} {level : Nat}
    (placed : ∀ stop, Placed level (value stop)) (read : Except Fault Cursor) :
    Placed level (literalDoc value read).1 := by
  cases read with
  | ok after => exact placed after.offset
  | error fault => exact .broken

theorem placed_numeralDoc (level : Nat) (read : Except Break (Numeral × Cursor)) :
    Placed level (numeralDoc read).1 := by
  cases read with
  | ok result => exact .number
  | error reason => exact .broken

theorem placed_stringDoc (level : Nat) (read : Except Break (Except Fault String × Cursor)) :
    Placed level (stringDoc read).1 := by
  cases read with
  | ok result => exact .string
  | error reason => exact .broken

theorem placed_containerDoc {container : Tail → Doc} {level : Nat}
    (placed : ∀ tail, Placed level (container tail)) (read : Except (Break × Fault) Cursor) :
    Placed level (containerDoc container read).1 := by
  cases read with
  | ok after => exact placed _
  | error reason => exact placed _

def AllPlaced {Beside : Type} (level : Nat) (docs : List (Beside × Doc)) : Prop :=
  ∀ doc ∈ docs, Placed level doc.2

variable {Beside : Type} {level : Nat} {done : List (Beside × Doc)}

theorem AllPlaced.nil : AllPlaced level ([] : List (Beside × Doc)) := by
  intro doc member
  cases member

theorem AllPlaced.cons {doc : Beside × Doc} (first : Placed level doc.2)
    (others : AllPlaced level done) : AllPlaced level (doc :: done) := by
  intro other member
  rcases List.mem_cons.mp member with rfl | later
  · exact first
  · exact others other later

theorem AllPlaced.reverse (placed : AllPlaced level done) : AllPlaced level done.reverse :=
  fun doc member => placed doc (List.mem_reverse.mp member)

mutual

theorem placed_readValue (fuel level : Nat) (cursor : Cursor) :
    Placed level (readValue fuel level cursor).1 := by
  rw [readValue.eq_def]
  cases fuel with
  | zero => exact .broken
  | succ fuel =>
      simp only
      split
      · exact .broken
      · split
        · exact placed_literalDoc (fun _ => .null) _
        · exact placed_literalDoc (fun _ => .bool) _
        · exact placed_literalDoc (fun _ => .bool) _
        · exact placed_stringDoc level _
        · exact placed_numeralDoc level _
        · exact placed_containerDoc
            (fun _ => .array rfl (placed_readItems fuel (level + 1) [] _ .nil)) _
        · exact placed_containerDoc
            (fun _ => .object rfl (placed_readMembers fuel (level + 1) [] _ .nil)) _
        · split
          · exact placed_numeralDoc level _
          · exact .broken

theorem placed_readItems (fuel level : Nat) (done : List (Fault × Doc)) (cursor : Cursor)
    (placed : AllPlaced level done) : AllPlaced level (readItems fuel level done cursor).1 := by
  rw [readItems.eq_def]
  cases fuel with
  | zero => exact placed.reverse
  | succ fuel =>
      simp only
      split
      · exact placed.reverse
      split
      · exact placed.reverse
      split
      · exact placed_readItem fuel level done _ placed
      split
      · exact placed_readItem fuel level done _ placed
      · exact placed.reverse

theorem placed_readItem (fuel level : Nat) (done : List (Fault × Doc)) (cursor : Cursor)
    (placed : AllPlaced level done) : AllPlaced level (readItem fuel level done cursor).1 := by
  rw [readItem.eq_def]
  cases fuel with
  | zero => exact placed.reverse
  | succ fuel =>
      simp only
      split
      · exact placed.reverse
      · have first := placed_readValue fuel level cursor
        split
        · next item after read =>
            rw [read] at first
            exact placed_readItems fuel level _ after (.cons first placed)
        · next item reason read =>
            rw [read] at first
            exact AllPlaced.reverse (.cons first placed)

theorem placed_readMembers (fuel level : Nat) (done : List (Key × Doc)) (cursor : Cursor)
    (placed : AllPlaced level done) : AllPlaced level (readMembers fuel level done cursor).1 := by
  rw [readMembers.eq_def]
  cases fuel with
  | zero => exact placed.reverse
  | succ fuel =>
      simp only
      split
      · exact placed.reverse
      split
      · exact placed.reverse
      split
      · exact placed_readMember fuel level done _ placed
      split
      · exact placed_readMember fuel level done _ placed
      · exact placed.reverse

theorem placed_readMember (fuel level : Nat) (done : List (Key × Doc)) (cursor : Cursor)
    (placed : AllPlaced level done) : AllPlaced level (readMember fuel level done cursor).1 := by
  rw [readMember.eq_def]
  cases fuel with
  | zero => exact placed.reverse
  | succ fuel =>
      simp only
      split
      · exact placed.reverse
      split
      · split
        · exact placed.reverse
        · next name behind named =>
          split
          · next rest colon =>
              have inside := placed_readValue fuel level
                (Cursor.blanks ⟨rest, behind.blanks.offset + 1⟩)
              split
              · next item after read =>
                  rw [read] at inside
                  exact placed_readMembers fuel level _ after (.cons inside placed)
              · next item reason read =>
                  rw [read] at inside
                  exact AllPlaced.reverse (.cons inside placed)
          · exact AllPlaced.reverse (.cons .broken placed)
          · exact AllPlaced.reverse (.cons .broken placed)
      split
      · exact placed.reverse
      · exact placed.reverse

end

theorem placed_ofBytes (text : List UInt8) : Placed 0 (Document.ofBytes text).root := by
  have placed := placed_readValue (fuelFor text) 0 (Cursor.blanks ⟨text, 0⟩)
  unfold Document.ofBytes
  split <;> (next root _ read => rw [read] at placed; exact placed)

end NetworkPlugin.Json
