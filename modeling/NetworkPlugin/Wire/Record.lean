import NetworkPlugin.Wire.Codec

/-!
# Records on the wire

A record is described once, by its fields in order; reading, writing and showing all
follow from that.  A record is read from an object, whose unknown members are passed
over and whose known ones must not repeat, or from an array of its fields in order.
-/

namespace NetworkPlugin

open Json

inductive Absence where
  | never
  /-- Of an object, and of an array with all fields after it. -/
  | anywhere
  /-- Of an object only. -/
  | ofMember
deriving DecidableEq, Repr

namespace Absence

def allowsMember : Absence → Bool
  | never => false
  | anywhere | ofMember => true

def allowsItem : Absence → Bool
  | never | ofMember => false
  | anywhere => true

end Absence

/-- A field of records of a type.  Reading gives a change of a record whose field is
not set yet. -/
structure Field (Record : Type) where
  name : String
  label : String
  absence : Absence
  read : Doc → Except Fault (Record → Record)
  write : Record → Option Json
  snapshot : Record → Snapshot

namespace Field

variable {Record Value : Type}

/-- A field with a codec; `omits` says which values are not written. -/
def of (name label : String) (absence : Absence) (codec : Codec Value)
    (omits : Value → Bool) (get : Record → Value) (set : Value → Record → Record) :
    Field Record where
  name := name
  label := label
  absence := absence
  read doc := (codec.read doc).map set
  write record := if omits (get record) then none else some (codec.write (get record))
  snapshot record := codec.snapshot (get record)

def required (name label : String) (codec : Codec Value)
    (get : Record → Value) (set : Value → Record → Record) : Field Record :=
  of name label .never codec (fun _ => false) get set

def optional (name label : String) (codec : Codec Value) (default : Value)
    (get : Record → Value) (set : Value → Record → Record) : Field Record :=
  of name label .anywhere (codec.orDefault default) (fun _ => false) get set

def text (name label : String) (get : Record → String)
    (set : String → Record → Record) : Field Record :=
  of name label .anywhere (Codec.string.orDefault "") String.isEmpty get set

end Field

structure Schema (Record : Type) where
  name : String
  blank : Record
  fields : List (Field Record)

namespace Schema

variable {Record : Type}

/-! ## Objects -/

structure Progress (Record : Type) where
  record : Record
  names : List String

def readMember (schema : Schema Record) (progress : Progress Record)
    (member : Key × Doc) : Except Fault (Progress Record) := do
  let name ← member.1.name
  match schema.fields.find? (·.name = name) with
  | none =>
      member.2.ignored
      return progress
  | some field =>
      if name ∈ progress.names then .error ⟨.repeatedField name, member.1.stop⟩
      else
        let change ← field.read member.2
        return ⟨change progress.record, name :: progress.names⟩

def missing? (schema : Schema Record) (names : List String) : Option String :=
  (schema.fields.find? fun field => !field.absence.allowsMember && !names.contains field.name).map
    (·.name)

def readObject (schema : Schema Record) (members : List (Key × Doc)) (tail : Tail) :
    Except Fault Record := do
  let progress ← members.foldlM schema.readMember ⟨schema.blank, []⟩
  let stop ← tail.closed?
  match schema.missing? progress.names with
  | some name => .error ⟨.missingField name, stop⟩
  | none => return progress.record

/-! ## Arrays -/

def elements (schema : Schema Record) : String :=
  "struct " ++ schema.name ++ " with " ++
    String.ofList (Text.encodeNumeral 10 schema.fields.length) ++
    (if schema.fields.length = 1 then " element" else " elements")

def noMore : List (Fault × Doc) → Tail → Except Fault Unit
  | (surplus, _) :: _, _ => .error surplus
  | [], .closed _ => .ok ()
  | [], .broken _ surplus => .error surplus

def readArray (schema : Schema Record) (tail : Tail) (record : Record) (read : Nat) :
    List (Field Record) → List (Fault × Doc) → Except Fault Record
  | [], items => do
      noMore items tail
      return record
  | field :: fields, (_, item) :: items => do
      let change ← field.read item
      readArray schema tail (change record) (read + 1) fields items
  | field :: fields, [] => do
      let stop ← tail.closed?
      if field.absence.allowsItem then readArray schema tail record (read + 1) fields []
      else .error ⟨.tooShort read schema.elements, stop⟩

/-! ## The codec of a schema -/

def read (schema : Schema Record) : Doc → Except Fault Record
  | .object opening members tail => do
      opening.admitted
      schema.readObject members tail
  | .array opening items tail => do
      opening.admitted
      schema.readArray tail schema.blank 0 schema.fields items
  | doc => .error (doc.unexpected ("struct " ++ schema.name))

def members (schema : Schema Record) (record : Record) : List (String × Json) :=
  schema.fields.filterMap fun field =>
    (field.write record).map fun value => (field.name, value)

def codec (schema : Schema Record) : Codec Record where
  read := schema.read
  write record := .object (schema.members record)
  snapshot record :=
    .record schema.name
      (schema.fields.map fun field => (field.label, field.snapshot record))

end Schema

end NetworkPlugin
