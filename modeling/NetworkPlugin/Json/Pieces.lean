import NetworkPlugin.Json.Cursor

/-!
# Strings in documents

A string is cut into pieces first, which alone decide where it ends.  What the pieces
mean is found out afterwards: numbers of surrogates must come in pairs, and the bytes
must be UTF-8.
-/

namespace NetworkPlugin.Json

open Text

inductive Piece where
  | byte (value : UInt8)
  | escaped (value : UInt8)
  | unit (value : Nat)

inductive StringEnd where
  | closed (after : Cursor)
  | broken (reason : Break)

def hexUnit? (a b c d : UInt8) : Option Nat :=
  decodeNumeral? 16 [character a, character b, character c, character d]

def escapeValue? (byte : UInt8) : Option UInt8 :=
  match character byte with
  | '"' => some 0x22
  | '\\' => some 0x5c
  | '/' => some 0x2f
  | 'b' => some 0x08
  | 'f' => some 0x0c
  | 'n' => some 0x0a
  | 'r' => some 0x0d
  | 't' => some 0x09
  | _ => none

/-- Pieces are kept with the offset behind them, the last one first. -/
def readPieces (done : List (Piece × Nat)) :
    List UInt8 → Nat → List (Piece × Nat) × StringEnd
  | [], offset => (done, .broken (.same ⟨.unfinishedString, offset⟩))
  | byte :: rest, offset =>
      if byte = 0x22 then (done, .closed ⟨rest, offset + 1⟩)
      else if byte = 0x5c then
        match rest with
        | [] => (done, .broken (.same ⟨.unfinishedString, offset + 1⟩))
        | mark :: rest =>
            if mark = 0x75 then
              match rest with
              | a :: b :: c :: d :: rest =>
                  match hexUnit? a b c d with
                  | some value => readPieces ((.unit value, offset + 6) :: done) rest (offset + 6)
                  | none => (done, .broken (.same ⟨.malformedEscape, offset + 6⟩))
              | short =>
                  (done, .broken (.same ⟨.unfinishedString, offset + 2 + short.length⟩))
            else
              match escapeValue? mark with
              | some value => readPieces ((.escaped value, offset + 2) :: done) rest (offset + 2)
              | none => (done, .broken (.same ⟨.malformedEscape, offset + 2⟩))
      else if byte < 0x20 then
        (done, .broken ⟨⟨.controlCharacter, offset + 1⟩, ⟨.controlCharacter, offset⟩⟩)
      else readPieces ((.byte byte, offset + 1) :: done) rest (offset + 1)

def isLeading (value : Nat) : Bool := 0xd800 ≤ value && value < 0xdc00

def isTrailing (value : Nat) : Bool := 0xdc00 ≤ value && value < 0xe000

def encodeUtf8 (number : Nat) : List UInt8 := String.utf8EncodeChar (Char.ofNat number)

def joinSurrogates (leading trailing : Nat) : Nat :=
  0x10000 + (leading - 0xd800) * 0x400 + (trailing - 0xdc00)

/-- What a reader finds instead of the second surrogate, when the string goes on after
the first one with something that is no number. -/
def afterLeading (stop : Nat) : StringEnd → Fault
  | .closed _ => ⟨.missingSurrogate, stop + 1⟩
  | .broken reason =>
      match reason.wanted.cause with
      | .controlCharacter => ⟨.missingSurrogate, stop + 1⟩
      | .malformedEscape =>
          if reason.wanted.offset = stop + 2 then ⟨.missingSurrogate, stop + 2⟩
          else reason.wanted
      | _ => reason.wanted

/-- The bytes that pieces stand for, in front of which come those found so far in
reverse; `ending` is what the string ends with. -/
def piecesToBytes (ending : StringEnd) (bytes : List UInt8) :
    List (Piece × Nat) → Except Fault (List UInt8)
  | [] => .ok bytes.reverse
  | (.byte value, _) :: pieces => piecesToBytes ending (value :: bytes) pieces
  | (.escaped value, _) :: pieces => piecesToBytes ending (value :: bytes) pieces
  | (.unit value, stop) :: pieces =>
      if isTrailing value then .error ⟨.unpairedSurrogate, stop⟩
      else if isLeading value then
        match pieces with
        | (.unit second, stop) :: pieces =>
            if isTrailing second then
              let joined := encodeUtf8 (joinSurrogates value second)
              piecesToBytes ending (joined.reverse ++ bytes) pieces
            else .error ⟨.unpairedSurrogate, stop⟩
        | (.byte _, _) :: _ => .error ⟨.missingSurrogate, stop + 1⟩
        | (.escaped _, _) :: _ => .error ⟨.missingSurrogate, stop + 2⟩
        | [] => .error (afterLeading stop ending)
      else piecesToBytes ending ((encodeUtf8 value).reverse ++ bytes) pieces

/-- The position of the first byte at or after `start` that no character begins with,
looked for in as many steps as there is fuel. -/
def malformedAt (bytes : ByteArray) (start : Nat) : Nat → Nat
  | 0 => start
  | fuel + 1 =>
      match bytes.utf8DecodeChar? start with
      | some c => malformedAt bytes (start + c.utf8Size) fuel
      | none => start

/-- The text of pieces, whose bytes must be UTF-8.  A fault is placed by counting back
from the end of the string as many bytes as there are from the malformed one on, so that
escapes among these, being longer than what they stand for, move it on. -/
def piecesToText (pieces : List (Piece × Nat)) (after : Cursor) : Except Fault String := do
  let bytes ← piecesToBytes (.closed after) [] pieces
  let packed : ByteArray := ⟨bytes.toArray⟩
  match String.fromUTF8? packed with
  | some text => .ok text
  | none =>
      let malformed := bytes.drop (malformedAt packed 0 bytes.length)
      .error ⟨.malformedText, after.offset - malformed.length⟩

def readString (cursor : Cursor) : Except Break (Except Fault String × Cursor) :=
  match readPieces [] cursor.rest cursor.offset with
  | (pieces, .closed after) =>
      .ok (piecesToText pieces.reverse after, after)
  | (pieces, .broken reason) =>
      match piecesToBytes (.broken reason) [] pieces.reverse with
      | .ok _ => .error reason
      | .error fault => .error { reason with wanted := fault }

end NetworkPlugin.Json
