import NetworkPlugin.Decimal.Binary64
import NetworkPlugin.Text.Numeral

/-!
# The shortest decimal that reads back

A decimal is `digits * 10 ^ exponent`.  Among the decimals that round to a given
magnitude those with the fewest digits are taken, and of these the nearest one.
-/

namespace NetworkPlugin

open Text

structure Decimal where
  digits : Nat
  exponent : Int
deriving DecidableEq, Repr, Inhabited

namespace Decimal

/-! ## The interval of a magnitude

Everything is measured in units of `2 ^ (exponent - 2)`. -/

structure Interval where
  low : Nat
  point : Nat
  high : Nat
  closed : Bool

def interval (x : Binary64) : Interval :=
  { low :=
      if x.mantissa = Binary64.leastFull ∧ Binary64.leastExponent < x.exponent then
        4 * x.mantissa - 1
      else 4 * x.mantissa - 2
    point := 4 * x.mantissa
    high := 4 * x.mantissa + 2
    closed := x.mantissa % 2 = 0 }

/-- The numbers `unit` and `grid` stand in the proportion of the interval's unit to
the power of ten of the grid. -/
structure Scale where
  unit : Nat
  grid : Nat

def scale (x : Binary64) (exponent : Int) : Scale :=
  let twos := x.exponent - 2
  { unit := powerOfTen (-exponent).toNat <<< twos.toNat
    grid := powerOfTen exponent.toNat <<< (-twos).toNat }

def Interval.holds (i : Interval) (s : Scale) (digits : Nat) : Bool :=
  let position := digits * s.grid
  if i.closed then i.low * s.unit ≤ position && position ≤ i.high * s.unit
  else i.low * s.unit < position && position < i.high * s.unit

/-- The point of the grid that is nearest to the magnitude and in its interval; of
two equally near ones the even one. -/
def onGrid? (x : Binary64) (exponent : Int) : Option Decimal :=
  let i := interval x
  let s := scale x exponent
  let below := i.point * s.unit / s.grid
  let above := below + 1
  let toBelow := i.point * s.unit - below * s.grid
  let toAbove := above * s.grid - i.point * s.unit
  let belowFirst := toBelow < toAbove ∨ (toBelow = toAbove ∧ below % 2 = 0)
  let candidates := if belowFirst then [below, above] else [above, below]
  (candidates.find? (i.holds s)).map fun digits => ⟨digits, exponent⟩

def leadingExponent (x : Binary64) : Int :=
  let (top, bottom) := x.fraction
  if bottom ≤ top then (encodeNumeral 10 (top / bottom)).length - 1
  else -((List.range 400).takeWhile fun places => top * powerOfTen places < bottom).length

/-- Seventeen digits always suffice. -/
def shortest (x : Binary64) : Decimal :=
  let leading := leadingExponent x
  ((List.range 17).findSome? fun (places : Nat) => onGrid? x (leading - places)).getD
    ⟨0, 0⟩

/-! ## Text -/

structure Style where
  leastPositional : Int
  greatestPositional : Int

def trimZeros (text : List Char) : List Char :=
  (text.reverse.dropWhile (· = '0')).reverse

def withPoint : List Char → List Char
  | [] => []
  | [digit] => [digit]
  | digit :: digits => digit :: '.' :: digits

def encodeExponent (exponent : Int) : List Char :=
  (if exponent < 0 then '-' else '+') :: encodeNumeral 10 exponent.natAbs

/-- A whole number is written with one zero after the point. -/
def Style.encode (style : Style) (d : Decimal) : List Char :=
  let text := trimZeros (encodeNumeral 10 d.digits)
  let leading : Int := d.exponent + (encodeNumeral 10 d.digits).length - 1
  if d.digits = 0 then "0.0".toList
  else if leading < style.leastPositional ∨ style.greatestPositional < leading then
    withPoint text ++ 'e' :: encodeExponent leading
  else if leading < 0 then
    "0.".toList ++ List.replicate (leading.natAbs - 1) '0' ++ text
  else
    let whole := leading.toNat + 1
    if text.length ≤ whole then
      text ++ List.replicate (whole - text.length) '0' ++ ".0".toList
    else text.take whole ++ '.' :: text.drop whole

end Decimal

end NetworkPlugin
