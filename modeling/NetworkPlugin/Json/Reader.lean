import NetworkPlugin.Json.Numeral
import NetworkPlugin.Json.Pieces

/-!
# Reading documents

A value is told by its first byte, and containers are read item by item.  Reading goes
on as long as it can and leaves behind a document that ends in at most one break.
-/

namespace NetworkPlugin.Json

def literalDoc (value : Nat → Doc) : Except Fault Cursor → Doc × Except Break Cursor
  | .ok after => (value after.offset, .ok after)
  | .error fault => (.broken (.same fault), .error (.same fault))

def numeralDoc : Except Break (Numeral × Cursor) → Doc × Except Break Cursor
  | .ok (numeral, after) => (.number (numeral.value after.offset) after.offset, .ok after)
  | .error reason => (.broken reason, .error reason)

def stringDoc : Except Break (Except Fault String × Cursor) → Doc × Except Break Cursor
  | .ok (text, after) => (.string text after.offset, .ok after)
  | .error reason => (.broken reason, .error reason)

def containerDoc (container : Tail → Doc) :
    Except (Break × Fault) Cursor → Doc × Except Break Cursor
  | .ok after => (container (.closed after.offset), .ok after)
  | .error (reason, surplus) => (container (.broken reason surplus), .error reason)

def surplusItem (cursor : Cursor) : Fault :=
  if cursor.rest.head? = some 0x5d then cursor.ahead .trailingComma
  else cursor.ahead .trailingCharacters

/-- The fault of a reader who needs no item at all.  A comma, although there is nothing
in front of it, counts as one that separates. -/
def surplusStart (cursor : Cursor) : Fault :=
  match cursor.rest with
  | 0x2c :: rest => surplusItem (Cursor.blanks ⟨rest, cursor.offset + 1⟩)
  | _ => surplusItem cursor

/-- The offset at which a repeated name is found out: behind the blanks after it, and
behind a brace that follows them. -/
def repeatedAt (cursor : Cursor) : Nat :=
  if cursor.rest.head? = some 0x7d then cursor.offset + 1 else cursor.offset

mutual

/-- A value at a depth, blanks before it having been skipped.  Fuel bounds the number
of calls that follow. -/
def readValue (fuel level : Nat) (cursor : Cursor) : Doc × Except Break Cursor :=
  let missing (fault : Fault) := (Doc.broken (.same fault), .error (.same fault))
  match fuel with
  | 0 => missing (cursor.ahead .tooDeep)
  | fuel + 1 =>
      match cursor.rest with
      | [] => missing (cursor.ahead .unfinishedValue)
      | byte :: rest =>
          let inside : Cursor := ⟨rest, cursor.offset + 1⟩
          match character byte with
          | 'n' => literalDoc .null (readLiteral "ull".toList rest inside.offset)
          | 't' => literalDoc (.bool true) (readLiteral "rue".toList rest inside.offset)
          | 'f' => literalDoc (.bool false) (readLiteral "alse".toList rest inside.offset)
          | '"' => stringDoc (readString inside)
          | '-' => numeralDoc (readNumeral true inside)
          | '[' =>
              let (items, after) := readItems fuel (level + 1) [] inside
              containerDoc (.array ⟨cursor.offset, level + 1⟩ items) after
          | '\x7b' =>
              let (members, after) := readMembers fuel (level + 1) [] inside
              containerDoc (.object ⟨cursor.offset, level + 1⟩ members) after
          | _ =>
              if (digit? byte).isSome then numeralDoc (readNumeral false cursor)
              else missing (cursor.ahead .notAValue)

def readItems (fuel level : Nat) (done : List (Fault × Doc)) (cursor : Cursor) :
    List (Fault × Doc) × Except (Break × Fault) Cursor :=
  let cursor := cursor.blanks
  let stopped (fault surplus : Fault) := (done.reverse, .error (.same fault, surplus))
  match fuel with
  | 0 => stopped (cursor.ahead .tooDeep) (cursor.ahead .tooDeep)
  | fuel + 1 =>
      match cursor.rest with
      | [] => stopped (cursor.ahead .unfinishedList) (cursor.ahead .unfinishedList)
      | byte :: rest =>
          if byte = 0x5d then (done.reverse, .ok ⟨rest, cursor.offset + 1⟩)
          else if done.isEmpty then readItem fuel level done cursor
          else if byte = 0x2c then
            readItem fuel level done (Cursor.blanks ⟨rest, cursor.offset + 1⟩)
          else
            stopped (cursor.ahead (.notAComma ']')) (cursor.ahead .trailingCharacters)

def readItem (fuel level : Nat) (done : List (Fault × Doc)) (cursor : Cursor) :
    List (Fault × Doc) × Except (Break × Fault) Cursor :=
  let surplus := if done.isEmpty then surplusStart cursor else surplusItem cursor
  match fuel with
  | 0 => (done.reverse, .error (.same (cursor.ahead .tooDeep), surplus))
  | fuel + 1 =>
      if cursor.rest.head? = some 0x5d then
        (done.reverse,
          .error (⟨cursor.ahead .trailingComma, cursor.ahead .notAValue⟩, surplus))
      else
        match readValue fuel level cursor with
        | (item, .ok after) => readItems fuel level ((surplus, item) :: done) after
        | (item, .error reason) =>
            (((surplus, item) :: done).reverse, .error (reason, reason.wanted))

def readMembers (fuel level : Nat) (done : List (Key × Doc)) (cursor : Cursor) :
    List (Key × Doc) × Except (Break × Fault) Cursor :=
  let cursor := cursor.blanks
  let stopped (reason : Break) := (done.reverse, .error (reason, reason.wanted))
  match fuel with
  | 0 => stopped (.same (cursor.ahead .tooDeep))
  | fuel + 1 =>
      match cursor.rest with
      | [] => stopped (.same (cursor.ahead .unfinishedObject))
      | byte :: rest =>
          if byte = 0x7d then (done.reverse, .ok ⟨rest, cursor.offset + 1⟩)
          else if done.isEmpty then readMember fuel level done cursor
          else if byte = 0x2c then
            readMember fuel level done (Cursor.blanks ⟨rest, cursor.offset + 1⟩)
          else stopped (.same (cursor.ahead (.notAComma '\x7d')))

def readMember (fuel level : Nat) (done : List (Key × Doc)) (cursor : Cursor) :
    List (Key × Doc) × Except (Break × Fault) Cursor :=
  let stopped (reason : Break) := (done.reverse, .error (reason, reason.wanted))
  match fuel with
  | 0 => stopped (.same (cursor.ahead .tooDeep))
  | fuel + 1 =>
      match cursor.rest with
      | [] =>
          stopped ⟨cursor.ahead .unfinishedValue, cursor.ahead .unfinishedObject⟩
      | byte :: rest =>
          if byte = 0x22 then
            match readString ⟨rest, cursor.offset + 1⟩ with
            | .error reason => stopped reason
            | .ok (name, after) =>
                let after := after.blanks
                let key : Key := ⟨name, repeatedAt after⟩
                let halted (reason : Break) (item : Doc) :=
                  (((key, item) :: done).reverse, .error (reason, reason.wanted))
                match after.rest with
                | 0x3a :: rest =>
                    match readValue fuel level (Cursor.blanks ⟨rest, after.offset + 1⟩) with
                    | (item, .ok after) => readMembers fuel level ((key, item) :: done) after
                    | (item, .error reason) => halted reason item
                | [] =>
                    let reason := .same (after.ahead .unfinishedObject)
                    halted reason (.broken reason)
                | _ :: _ =>
                    let reason := .same (after.ahead .notAColon)
                    halted reason (.broken reason)
          else if byte = 0x7d then
            stopped ⟨cursor.ahead .trailingComma, cursor.ahead .notAKey⟩
          else stopped (.same (cursor.ahead .notAKey))

end

/-- Fuel for a text: every value takes at least one byte, and no more than three calls
are made between two bytes. -/
def fuelFor (text : List UInt8) : Nat := 4 * text.length + 4

def Document.ofBytes (text : List UInt8) : Document :=
  match readValue (fuelFor text) 0 (Cursor.blanks ⟨text, 0⟩) with
  | (root, .ok after) =>
      let after := after.blanks
      ⟨root, if after.rest = [] then none else some (after.ahead .trailingCharacters)⟩
  | (root, .error _) => ⟨root, none⟩

end NetworkPlugin.Json
