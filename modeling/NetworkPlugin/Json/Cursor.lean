import NetworkPlugin.Json.Document

/-!
# Cursors

What is left of a text, with its offset.  Every reader takes a cursor and gives back
the one that it leaves; blanks and literals are read here.
-/

namespace NetworkPlugin.Json

structure Cursor where
  rest : List UInt8
  offset : Nat

namespace Cursor

/-- A fault at what comes next: behind the next byte, or at the end of the text. -/
def ahead (cursor : Cursor) (cause : Cause) : Fault :=
  ⟨cause, cursor.offset + (cursor.rest.take 1).length⟩

def skip (cursor : Cursor) (count : Nat) : Cursor :=
  ⟨cursor.rest.drop count, cursor.offset + count⟩

end Cursor

def character (byte : UInt8) : Char := Char.ofNat byte.toNat

def isBlank (byte : UInt8) : Bool :=
  match character byte with
  | ' ' | '\n' | '\t' | '\r' => true
  | _ => false

def skipBlanks : List UInt8 → Nat → Cursor
  | [], offset => ⟨[], offset⟩
  | byte :: rest, offset =>
      if isBlank byte then skipBlanks rest (offset + 1) else ⟨byte :: rest, offset⟩

def Cursor.blanks (cursor : Cursor) : Cursor := skipBlanks cursor.rest cursor.offset

/-! ## Literals -/

def readLiteral : List Char → List UInt8 → Nat → Except Fault Cursor
  | [], rest, offset => .ok ⟨rest, offset⟩
  | _ :: _, [], offset => .error ⟨.unfinishedValue, offset⟩
  | c :: literal, byte :: rest, offset =>
      if character byte = c then readLiteral literal rest (offset + 1)
      else .error ⟨.notAnIdentifier, offset + 1⟩

end NetworkPlugin.Json
