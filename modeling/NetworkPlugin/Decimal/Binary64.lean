/-!
# Binary floating-point magnitudes

A magnitude is `mantissa * 2 ^ exponent` with at most 53 bits of mantissa, as a
64-bit float holds it.  All arithmetic is exact arithmetic on natural numbers
followed by one rounding to the nearest magnitude, ties to the even mantissa.
-/

namespace NetworkPlugin

def powerOfTen (exponent : Nat) : Nat := Nat.pow 10 exponent

structure Binary64 where
  mantissa : Nat
  exponent : Int
deriving DecidableEq, Repr, Inhabited

namespace Binary64

def leastExponent : Int := -1074

def greatestExponent : Int := 971

def leastFull : Nat := 1 <<< 52

def mantissaBound : Nat := 1 <<< 53

def zero : Binary64 := ⟨0, leastExponent⟩

def isZero (x : Binary64) : Bool := x.mantissa = 0

/-- The quotient of two numbers, rounded to the nearest, ties to even. -/
def roundedQuotient (numerator denominator : Nat) : Nat :=
  let quotient := numerator / denominator
  let twice := 2 * (numerator % denominator)
  if twice < denominator ∨ (twice = denominator ∧ quotient % 2 = 0) then quotient
  else quotient + 1

def scaled (numerator denominator : Nat) (exponent : Int) : Nat × Nat :=
  if 0 ≤ exponent then (numerator, denominator <<< exponent.toNat)
  else (numerator <<< (-exponent).toNat, denominator)

/-- The exponent at which a positive fraction has a mantissa of 53 bits, or the
least exponent if that is larger. -/
def exponentFor (numerator denominator : Nat) : Int :=
  let estimate : Int := numerator.log2 - denominator.log2 - 53
  let (top, bottom) := scaled numerator denominator estimate
  max leastExponent (if top < bottom * mantissaBound then estimate else estimate + 1)

/-- The magnitude nearest to a fraction; none if that would be infinite. -/
def nearest? (numerator denominator : Nat) : Option Binary64 :=
  if numerator = 0 then some zero
  else
    let exponent := exponentFor numerator denominator
    let (top, bottom) := scaled numerator denominator exponent
    let mantissa := roundedQuotient top bottom
    let rounded : Binary64 :=
      if mantissa = mantissaBound then ⟨leastFull, exponent + 1⟩ else ⟨mantissa, exponent⟩
    if rounded.exponent ≤ greatestExponent then some rounded else none

def fraction (x : Binary64) : Nat × Nat :=
  if 0 ≤ x.exponent then (x.mantissa <<< x.exponent.toNat, 1)
  else (x.mantissa, 1 <<< (-x.exponent).toNat)

def mul? (x y : Binary64) : Option Binary64 :=
  nearest? (x.fraction.1 * y.fraction.1) (x.fraction.2 * y.fraction.2)

def div? (x y : Binary64) : Option Binary64 :=
  nearest? (x.fraction.1 * y.fraction.2) (x.fraction.2 * y.fraction.1)

/-! ## Decimal scaling -/

def greatestPower : Nat := 308

def powerOfTen? (exponent : Nat) : Option Binary64 := nearest? (powerOfTen exponent) 1

def divideTimes? (divisor x : Binary64) : Nat → Option Binary64
  | 0 => some x
  | times + 1 =>
      if x.isZero then some x
      else (x.div? divisor).bind fun smaller => divideTimes? divisor smaller times

/-- How many times the greatest power of ten is taken off a negative exponent. -/
def surplusPowers (exponent : Int) : Nat := ((-exponent).toNat - 1) / greatestPower

/-- `significand * 10 ^ exponent` by one rounding of the significand, one of the
power of ten and one of their product or quotient; none if it is infinite. -/
def ofDecimal? (significand : Nat) (exponent : Int) : Option Binary64 := do
  let start ← nearest? significand 1
  if start.isZero then some zero
  else if (greatestPower : Int) < exponent then none
  else if 0 ≤ exponent then start.mul? (← powerOfTen? exponent.toNat)
  else
    let times := surplusPowers exponent
    let x ← divideTimes? (← powerOfTen? greatestPower) start times
    let rest := (-exponent).toNat - times * greatestPower
    if x.isZero then some zero else x.div? (← powerOfTen? rest)

end Binary64

end NetworkPlugin
