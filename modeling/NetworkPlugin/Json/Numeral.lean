import NetworkPlugin.Json.Cursor

/-!
# Numerals in documents

An outline of a numeral is found first; its value comes from the digits.  A numeral
without fraction and exponent that fits into 64 bits is whole.  For every other one
as many leading digits are taken as fit into 64 bits, in the part before the point
and again in the part behind it, and the digits left out only count as powers of ten.
-/

namespace NetworkPlugin.Json

structure Numeral where
  negative : Bool
  integer : List Nat
  fraction : Option (List Nat)
  exponent : Option (Bool × List Nat)

/-! ## Outline -/

def digit? (byte : UInt8) : Option Nat :=
  if 0x30 ≤ byte ∧ byte ≤ 0x39 then some (byte.toNat - 0x30) else none

def readDigits (digits : List Nat) : List UInt8 → Nat → List Nat × Cursor
  | [], offset => (digits.reverse, ⟨[], offset⟩)
  | byte :: rest, offset =>
      match digit? byte with
      | some digit => readDigits (digit :: digits) rest (offset + 1)
      | none => (digits.reverse, ⟨byte :: rest, offset⟩)

def missingDigit (fault : Fault) (cursor : Cursor) : Break :=
  { wanted := if cursor.rest = [] then ⟨.unfinishedValue, cursor.offset⟩ else fault
    ignored := fault }

def readInteger (cursor : Cursor) : Except Break (List Nat × Cursor) :=
  match readDigits [] cursor.rest cursor.offset with
  | ([], _) => .error (missingDigit (cursor.ahead .malformedNumber) cursor)
  | (0 :: _ :: _, _) =>
      .error (.same ((cursor.skip 1).ahead .malformedNumber))
  | (digits, after) => .ok (digits, after)

def readFraction (cursor : Cursor) : Except Break (Option (List Nat) × Cursor) :=
  match cursor.rest with
  | 0x2e :: rest =>
      let inside : Cursor := ⟨rest, cursor.offset + 1⟩
      match readDigits [] inside.rest inside.offset with
      | ([], _) => .error (missingDigit (inside.ahead .malformedNumber) inside)
      | (digits, after) => .ok (some digits, after)
  | _ => .ok (none, cursor)

def readSign (cursor : Cursor) : Bool × Cursor :=
  match cursor.rest with
  | 0x2b :: rest => (false, ⟨rest, cursor.offset + 1⟩)
  | 0x2d :: rest => (true, ⟨rest, cursor.offset + 1⟩)
  | _ => (false, cursor)

def readExponent (cursor : Cursor) : Except Break (Option (Bool × List Nat) × Cursor) :=
  match cursor.rest with
  | byte :: rest =>
      if byte = 0x65 ∨ byte = 0x45 then
        let (lowered, inside) := readSign ⟨rest, cursor.offset + 1⟩
        match readDigits [] inside.rest inside.offset with
        | ([], _) => .error (missingDigit (inside.ahead .malformedNumber) inside)
        | (digits, after) => .ok (some (lowered, digits), after)
      else .ok (none, cursor)
  | [] => .ok (none, cursor)

def readNumeral (negative : Bool) (cursor : Cursor) :
    Except Break (Numeral × Cursor) := do
  let (integer, cursor) ← readInteger cursor
  let (fraction, cursor) ← readFraction cursor
  let (exponent, cursor) ← readExponent cursor
  return (⟨negative, integer, fraction, exponent⟩, cursor)

/-! ## Value -/

def significandBound : Nat := 0x10000000000000000

def takeDigits (significand : Nat) : List Nat → Nat × List Nat
  | [] => (significand, [])
  | digit :: digits =>
      if significand * 10 + digit < significandBound then
        takeDigits (significand * 10 + digit) digits
      else (significand, digit :: digits)

def greatestWritten : Nat := 0x7fffffff

/-- The value of an exponent, or how many of its digits show that it is too large. -/
def writtenExponent (value read : Nat) : List Nat → Except Nat Nat
  | [] => .ok value
  | digit :: digits =>
      if value * 10 + digit ≤ greatestWritten then
        writtenExponent (value * 10 + digit) (read + 1) digits
      else .error (read + 1)

def Numeral.float (numeral : Numeral) (significand : Nat) (exponent : Int) (stop : Nat) :
    Except Fault Number :=
  match Binary64.ofDecimal? significand exponent with
  | some magnitude => .ok (.float numeral.negative magnitude)
  | none => .error ⟨.numberOutOfRange, stop⟩

/-- A whole number stays exact within 64 bits; a negative zero does not stay whole. -/
def Numeral.whole (numeral : Numeral) (significand : Nat) (stop : Nat) :
    Except Fault Number :=
  if numeral.negative then
    if h : 0 < significand ∧ significand ≤ 0x8000000000000000 then
      .ok (.whole (-(significand : Int)) (by omega) (by omega))
    else numeral.float significand 0 stop
  else if h : significand < 0x10000000000000000 then
    .ok (.whole (significand : Int) (by omega) (by omega))
  else numeral.float significand 0 stop

def Numeral.value (numeral : Numeral) (stop : Nat) : Except Fault Number :=
  let (leading, omitted) := takeDigits 0 numeral.integer
  match numeral.fraction, numeral.exponent, omitted with
  | none, none, [] => numeral.whole leading stop
  | fraction, exponent, _ =>
      let behind := fraction.getD []
      let (significand, rest) := takeDigits leading behind
      let shift : Int := omitted.length - (behind.length - rest.length : Nat)
      match exponent with
      | none => numeral.float significand shift stop
      | some (lowered, digits) =>
          match writtenExponent 0 0 digits with
          | .ok size =>
              numeral.float significand (if lowered then shift - size else shift + size) stop
          | .error read =>
              if significand = 0 ∨ lowered then
                .ok (.float numeral.negative Binary64.zero)
              else .error ⟨.numberOutOfRange, stop - (digits.length - read)⟩

end NetworkPlugin.Json
