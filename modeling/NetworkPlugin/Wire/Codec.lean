import NetworkPlugin.Json.Reader

/-!
# Codecs

A codec says how values of a type are read from documents, written as free-form
values and shown in snapshots.  Codecs of larger types are built from those of their
parts.
-/

namespace NetworkPlugin

open Json

structure Codec (Value : Type) where
  read : Doc → Except Fault Value
  write : Value → Json
  snapshot : Value → Snapshot

abbrev Dictionary (Value : Type) := Std.ExtTreeMap String Value compare

abbrev Options := Dictionary Json

namespace Codec

variable {Value : Type}

/-! ## Scalars -/

def string : Codec String where
  read
    | .string value _ => value
    | doc => .error (doc.unexpected "a string")
  write value := .string value
  snapshot value := .text value

def bool : Codec Bool where
  read
    | .bool value _ => .ok value
    | doc => .error (doc.unexpected "a boolean")
  write value := .bool value
  snapshot value := .word (encodeBool value)

def readInt32 (value : Int) (stop : Nat) : Except Fault Int32 :=
  if -0x80000000 ≤ value ∧ value < 0x80000000 then .ok (Int32.ofInt value)
  else .error ⟨.integerOutOfRange value "i32", stop⟩

def writeInt32 (value : Int32) : Json :=
  .number (.whole value.toInt
    (Int.le_trans (by decide) value.le_toInt)
    (Int.lt_trans value.toInt_lt (by decide)))

def int32 : Codec Int32 where
  read
    | .number (.ok (.whole value _ _)) stop => readInt32 value stop
    | doc => .error (doc.unexpected "i32")
  write := writeInt32
  snapshot value := .word (String.ofList (encodeInt value.toInt))

/-! ## Free-form values -/

mutual

def readJson : Doc → Except Fault Json
  | .null _ => .ok .null
  | .bool value _ => .ok (.bool value)
  | .number value _ => value.map .number
  | .string value _ => value.map .string
  | .array opening items tail => do
      opening.admitted
      let values ← readJsonItems [] items
      let _ ← tail.closed?
      return .array values
  | .object opening members tail => do
      opening.admitted
      let values ← readJsonMembers [] members
      let _ ← tail.closed?
      return .object (canonicalMembers values)
  | .broken reason => .error reason.wanted

def readJsonItems (done : List Json) : List (Fault × Doc) → Except Fault (List Json)
  | [] => .ok done.reverse
  | (_, item) :: items =>
      match readJson item with
      | .ok value => readJsonItems (value :: done) items
      | .error fault => .error fault

def readJsonMembers (done : List (String × Json)) :
    List (Key × Doc) → Except Fault (List (String × Json))
  | [] => .ok done.reverse
  | (key, item) :: members =>
      match key.name with
      | .error fault => .error fault
      | .ok name =>
          match readJson item with
          | .ok value => readJsonMembers ((name, value) :: done) members
          | .error fault => .error fault

end

def json : Codec Json where
  read := readJson
  write value := value
  snapshot := Json.snapshot

/-! ## Containers -/

def readItems (codec : Codec Value) (items : List (Fault × Doc)) :
    Except Fault (List Value) :=
  items.mapM fun item => codec.read item.2

def list (codec : Codec Value) : Codec (List Value) where
  read
    | .array opening items tail => do
        opening.admitted
        let values ← codec.readItems items
        let _ ← tail.closed?
        return values
    | doc => .error (doc.unexpected "a sequence")
  write values := .array (values.map codec.write)
  snapshot values := .list (values.map codec.snapshot)

/-- A later member of the same name replaces an earlier one. -/
def readMembers (codec : Codec Value) (members : List (Key × Doc)) :
    Except Fault (Dictionary Value) :=
  members.foldlM (fun found (key, item) => do
    let name ← key.name
    let value ← codec.read item
    return found.insert name value) ∅

def dictionary (codec : Codec Value) : Codec (Dictionary Value) where
  read
    | .object opening members tail => do
        opening.admitted
        let found ← codec.readMembers members
        let _ ← tail.closed?
        return found
    | doc => .error (doc.unexpected "a map")
  write found := .object (found.toList.map fun (name, value) => (name, codec.write value))
  snapshot found :=
    .map (found.toList.map fun (name, value) => (name, codec.snapshot value))

/-! ## Missing values -/

def orDefault (codec : Codec Value) (default : Value) : Codec Value where
  read
    | .null _ => .ok default
    | doc => codec.read doc
  write := codec.write
  snapshot := codec.snapshot

def option (codec : Codec Value) : Codec (Option Value) where
  read
    | .null _ => .ok none
    | doc => (codec.read doc).map some
  write
    | some value => codec.write value
    | none => .null
  snapshot value := Snapshot.option (value.map codec.snapshot)

/-! ## Whole texts and values -/

def decodeWith (read : Doc → Except Fault Value) (text : List UInt8) :
    Except Fault Value := do
  let document := Document.ofBytes text
  let value ← read document.root
  match document.behind with
  | some fault => .error fault
  | none => return value

/-- Read a value that is already in memory; what is wrong with it has no place. -/
def ofJsonWith (read : Doc → Except Fault Value) (value : Json) : Except Cause Value :=
  (read (Doc.ofValue value)).mapError (·.cause)

def decode (codec : Codec Value) (text : List UInt8) : Except Fault Value :=
  decodeWith codec.read text

def ofJson (codec : Codec Value) (value : Json) : Except Cause Value :=
  ofJsonWith codec.read value

end Codec

end NetworkPlugin
