import NetworkPlugin.Json.Value

/-!
# Faults

Why a document cannot be read, and where.  Offsets count bytes from the start of the
text; a value that was never text has no offsets, and its faults are shown without.
-/

namespace NetworkPlugin.Json

open Text

inductive Found where
  | null
  | bool (value : Bool)
  | number (value : Number)
  | string (value : String)
  | sequence
  | map

inductive Cause where
  | unfinishedValue
  | unfinishedString
  | unfinishedList
  | unfinishedObject
  | notAValue
  | notAnIdentifier
  | notAComma (closing : Char)
  | notAColon
  | notAKey
  | trailingComma
  | trailingCharacters
  | malformedNumber
  | numberOutOfRange
  | malformedEscape
  | unpairedSurrogate
  | missingSurrogate
  | controlCharacter
  | malformedText
  | tooDeep
  | wrongType (found : Found) (expected : String)
  | integerOutOfRange (value : Int) (expected : String)
  | missingField (name : String)
  | repeatedField (name : String)
  | tooShort (length : Nat) (expected : String)
  | tooLong (length : Nat)

structure Fault where
  cause : Cause
  offset : Nat

/-! ## Wording -/

def Found.describe : Found → String
  | null => "null"
  | bool value => "boolean `" ++ encodeBool value ++ "`"
  | number (.whole value low high) =>
      "integer `" ++ (Number.whole value low high).render ++ "`"
  | number (.float negative magnitude) =>
      "floating point `" ++ (Number.float negative magnitude).render ++ "`"
  | string value => "string " ++ quote value
  | sequence => "sequence"
  | map => "map"

def Cause.message : Cause → String
  | unfinishedValue => "EOF while parsing a value"
  | unfinishedString => "EOF while parsing a string"
  | unfinishedList => "EOF while parsing a list"
  | unfinishedObject => "EOF while parsing an object"
  | notAValue => "expected value"
  | notAnIdentifier => "expected ident"
  | notAComma closing => "expected `,` or `" ++ closing.toString ++ "`"
  | notAColon => "expected `:`"
  | notAKey => "key must be a string"
  | trailingComma => "trailing comma"
  | trailingCharacters => "trailing characters"
  | malformedNumber => "invalid number"
  | numberOutOfRange => "number out of range"
  | malformedEscape => "invalid escape"
  | unpairedSurrogate => "lone leading surrogate in hex escape"
  | missingSurrogate => "unexpected end of hex escape"
  | controlCharacter =>
      "control character (\\u0000-\\u001F) found while parsing a string"
  | malformedText => "invalid unicode code point"
  | tooDeep => "recursion limit exceeded"
  | wrongType found expected =>
      "invalid type: " ++ found.describe ++ ", expected " ++ expected
  | integerOutOfRange value expected =>
      "invalid value: integer `" ++ String.ofList (encodeInt value) ++
        "`, expected " ++ expected
  | missingField name => "missing field `" ++ name ++ "`"
  | repeatedField name => "duplicate field `" ++ name ++ "`"
  | tooShort length expected =>
      "invalid length " ++ String.ofList (encodeNumeral 10 length) ++ ", expected " ++
        expected
  | tooLong length =>
      "invalid length " ++ String.ofList (encodeNumeral 10 length) ++
        ", expected fewer elements in array"

/-- Line and column after some bytes; lines count from one, columns from zero. -/
def position (read : List UInt8) : Nat × Nat :=
  (read.count 10 + 1, (read.reverse.takeWhile (· ≠ 10)).length)

def Fault.message (text : List UInt8) (fault : Fault) : String :=
  let (line, column) := position (text.take fault.offset)
  fault.cause.message ++ " at line " ++ String.ofList (encodeNumeral 10 line) ++
    " column " ++ String.ofList (encodeNumeral 10 column)

end NetworkPlugin.Json
