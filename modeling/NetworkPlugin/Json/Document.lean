import NetworkPlugin.Json.Fault

/-!
# Documents

A document is a text taken apart as far as it goes: nothing is refused, and whatever
stops the reading is kept in the place where it was met.  Which fault counts depends
on the reader of the document.  A value that is wanted must be flawless; a value that
is passed over need only have the outline of a value, so that a number out of range
or a stray surrogate inside it does no harm.
-/

namespace NetworkPlugin.Json

/-- The end of reading, as it looks to a reader who wants the value and to one who
passes over it. -/
structure Break where
  wanted : Fault
  ignored : Fault

def Break.same (fault : Fault) : Break := ⟨fault, fault⟩

/-- What follows the last item of a container: its bracket, of which the offset behind
is kept, or a break.  The fault beside the break is that of a reader who needs no
further items. -/
inductive Tail where
  | closed (stop : Nat)
  | broken (reason : Break) (surplus : Fault)

/-- Where a container starts and how many containers it is in, itself included. -/
structure Opening where
  start : Nat
  level : Nat

/-- A member's name and the offset at which a second member of that name is found out. -/
structure Key where
  name : Except Fault String
  stop : Nat

inductive Doc where
  | null (stop : Nat)
  | bool (value : Bool) (stop : Nat)
  | number (value : Except Fault Number) (stop : Nat)
  | string (value : Except Fault String) (stop : Nat)
  /-- Each item has the fault of a reader who needs no further items. -/
  | array (opening : Opening) (items : List (Fault × Doc)) (tail : Tail)
  | object (opening : Opening) (members : List (Key × Doc)) (tail : Tail)
  | broken (reason : Break)

structure Document where
  root : Doc
  behind : Option Fault

def deepest : Nat := 127

namespace Opening

def inside (opening : Opening) : Nat := opening.start + 1

def admitted (opening : Opening) : Except Fault Unit :=
  if opening.level ≤ deepest then .ok () else .error ⟨.tooDeep, opening.inside⟩

end Opening

namespace Tail

def closed? : Tail → Except Fault Nat
  | closed stop => .ok stop
  | broken reason _ => .error reason.wanted

end Tail

namespace Doc

def ignored : Doc → Except Fault Unit
  | array _ _ (.broken reason _) => .error reason.ignored
  | object _ _ (.broken reason _) => .error reason.ignored
  | broken reason => .error reason.ignored
  | _ => .ok ()

def unexpected (expected : String) : Doc → Fault
  | null stop => ⟨.wrongType .null expected, stop⟩
  | bool value stop => ⟨.wrongType (.bool value) expected, stop⟩
  | number (.ok value) stop => ⟨.wrongType (.number value) expected, stop⟩
  | number (.error fault) _ => fault
  | string (.ok value) stop => ⟨.wrongType (.string value) expected, stop⟩
  | string (.error fault) _ => fault
  | array opening _ _ => ⟨.wrongType .sequence expected, opening.start⟩
  | object opening _ _ => ⟨.wrongType .map expected, opening.start⟩
  | broken reason => reason.wanted

/-! ## Values as documents -/

def Opening.unplaced : Opening := ⟨0, 0⟩

mutual

/-- A value in memory has no offsets, and a surplus item is counted, not located. -/
def ofValue : Json → Doc
  | .null => null 0
  | .bool value => bool value 0
  | .number value => number (.ok value) 0
  | .string value => string (.ok value) 0
  | .array items =>
      array Opening.unplaced (ofItems ⟨.tooLong items.length, 0⟩ [] items) (.closed 0)
  | .object members => object Opening.unplaced (ofMembers [] members) (.closed 0)

def ofItems (surplus : Fault) (done : List (Fault × Doc)) :
    List Json → List (Fault × Doc)
  | [] => done.reverse
  | item :: items => ofItems surplus ((surplus, ofValue item) :: done) items

def ofMembers (done : List (Key × Doc)) : List (String × Json) → List (Key × Doc)
  | [] => done.reverse
  | (name, item) :: members => ofMembers ((⟨.ok name, 0⟩, ofValue item) :: done) members

end

end Doc

end NetworkPlugin.Json
