import NetworkPlugin.Decimal.Shortest
import NetworkPlugin.Text.Snapshot
import Std.Data.ExtTreeMap

/-!
# Free-form values

Whole numbers are exact within 64 bits and all other numbers are floats.  An object
holds each name once, names in increasing order.
-/

namespace NetworkPlugin

open Text

namespace Json

/-- A number as it is kept: any signed or unsigned 64-bit integer, or a float, whose
sign is kept even if it is zero. -/
inductive Number where
  | whole (value : Int) (low : -0x8000000000000000 ≤ value)
      (high : value < 0x10000000000000000)
  | float (negative : Bool) (magnitude : Binary64)
deriving DecidableEq

end Json

inductive Json where
  | null
  | bool (value : Bool)
  | number (value : Json.Number)
  | string (value : String)
  | array (items : List Json)
  | object (members : List (String × Json))
deriving Inhabited

namespace Json

/-- Names in increasing order; the last of several members of one name stays. -/
def canonicalMembers {Value : Type} (members : List (String × Value)) :
    List (String × Value) :=
  (Std.ExtTreeMap.ofList members compare).toList

/-! ## Numbers as text -/

/-- Positional from a hundred-thousandth up to sixteen digits before the point. -/
def floatNotation : Decimal.Style := ⟨-5, 15⟩

def encodeInt (value : Int) : List Char :=
  if value < 0 then '-' :: encodeNumeral 10 value.natAbs
  else encodeNumeral 10 value.natAbs

def encodeBool (value : Bool) : String := if value then "true" else "false"

def Number.render : Number → String
  | .whole value _ _ => String.ofList (encodeInt value)
  | .float negative magnitude =>
      (if negative then "-" else "") ++
        String.ofList (floatNotation.encode (Decimal.shortest magnitude))

/-! ## Snapshots -/

mutual

def snapshot : Json → Snapshot
  | null => .word "Null"
  | bool value => .wrapped "Bool" (.word (encodeBool value))
  | number value => .wrapped "Number" (.word value.render)
  | string value => .wrapped "String" (.text value)
  | array items => .labelled "Array" (.list (itemSnapshots items))
  | object members => .labelled "Object" (.map (memberSnapshots members))

def itemSnapshots : List Json → List Snapshot
  | [] => []
  | item :: items => snapshot item :: itemSnapshots items

def memberSnapshots : List (String × Json) → List (String × Snapshot)
  | [] => []
  | (name, item) :: members => (name, snapshot item) :: memberSnapshots members

end

/-! ## Text -/

def encodeChar (c : Char) : List Char :=
  match c with
  | '"' => ['\\', '"']
  | '\\' => ['\\', '\\']
  | '\n' => ['\\', 'n']
  | '\r' => ['\\', 'r']
  | '\t' => ['\\', 't']
  | '\x08' => ['\\', 'b']
  | '\x0c' => ['\\', 'f']
  | c =>
      if c.toNat < 0x20 then
        ['\\', 'u', '0', '0', Nat.digitChar (c.toNat / 16), Nat.digitChar (c.toNat % 16)]
      else [c]

def encodeString (text : String) : String :=
  String.ofList ('"' :: text.toList.flatMap encodeChar ++ ['"'])

mutual

def renderTo (written : String) : Json → String
  | null => written ++ "null"
  | bool value => written ++ encodeBool value
  | number value => written ++ value.render
  | string value => written ++ encodeString value
  | array items => renderItemsTo (written ++ "[") "" items ++ "]"
  | object members => renderMembersTo (written ++ "\x7b") "" members ++ "\x7d"

def renderItemsTo (written separator : String) : List Json → String
  | [] => written
  | item :: items => renderItemsTo (renderTo (written ++ separator) item) "," items

def renderMembersTo (written separator : String) : List (String × Json) → String
  | [] => written
  | (name, item) :: members =>
      renderMembersTo
        (renderTo (written ++ separator ++ encodeString name ++ ":") item) "," members

end

def render (value : Json) : String := renderTo "" value

end Json

end NetworkPlugin
