import Highlighter.Decimal.Binary64

/-!
# The shortest decimal of a number

Among the decimals that read back as a given number, the one with the fewest digits is chosen,
and of several such decimals the nearest to the number. It is written without an exponent.
-/

namespace Highlighter.Decimal

/-- A positive number together with the ends of the interval of decimals that read back as it,
over one denominator. -/
structure Interval where
  low : Nat
  value : Nat
  high : Nat
  denominator : Nat
  /-- Whether the ends themselves read back. -/
  closed : Bool

/-- The interval of `mantissa * 2 ^ exponent`. Its ends lie halfway to the neighbouring numbers;
below a power of two the neighbour is only half as far away. -/
def Interval.ofBinary (mantissa : Nat) (exponent : Int) : Interval :=
  let narrow := mantissa = Nat.pow 2 52 ∧ Binary64.leastExponent < exponent
  let up := Nat.pow 2 (exponent - 2).toNat
  { low := (4 * mantissa - if narrow then 1 else 2) * up
    value := 4 * mantissa * up
    high := (4 * mantissa + 2) * up
    denominator := Nat.pow 2 (2 - exponent).toNat
    closed := mantissa % 2 == 0 }

/-- The interval in units of `10 ^ exponent`. -/
def Interval.inUnits (interval : Interval) (exponent : Int) : Interval :=
  let up := Nat.pow 10 (-exponent).toNat
  { interval with
    low := interval.low * up
    value := interval.value * up
    high := interval.high * up
    denominator := interval.denominator * Nat.pow 10 exponent.toNat }

/-- Whether a natural number lies in the interval. -/
def Interval.holds (interval : Interval) (n : Nat) : Bool :=
  let scaled := n * interval.denominator
  if interval.closed then interval.low ≤ scaled && scaled ≤ interval.high
  else interval.low < scaled && scaled < interval.high

/-- The natural number in the interval that is nearest to its value, of the two next to the
value; a tie goes up. -/
def Interval.nearest? (interval : Interval) : Option Nat :=
  let below := interval.value / interval.denominator
  let above := below + 1
  match interval.holds below, interval.holds above with
  | true, true =>
    if 2 * interval.value < (below + above) * interval.denominator then some below
    else some above
  | true, false => some below
  | false, true => some above
  | false, false => none

/-- The exponent `e` with `10 ^ e ≤ value < 10 ^ (e + 1)`, for a positive fraction. -/
def magnitude (numerator denominator : Nat) : Int :=
  if denominator ≤ numerator then ((Nat.toDigits 10 (numerator / denominator)).length : Int) - 1
  else
    let places := ((List.range 400).find? fun n => denominator ≤ numerator * Nat.pow 10 n).getD 400
    0 - (places : Int)

/-- Move trailing zeros of the digits into the exponent. -/
def stripZeros : (steps : Nat) → (digits : Nat) → (exponent : Int) → Nat × Int
  | 0, digits, exponent => (digits, exponent)
  | steps + 1, digits, exponent =>
    if digits ≠ 0 ∧ digits % 10 = 0 then stripZeros steps (digits / 10) (exponent + 1)
    else (digits, exponent)

/-- The digits and the exponent of ten of the shortest decimal for `mantissa * 2 ^ exponent`.
Seventeen digits always identify a number. -/
def shortest (mantissa : Nat) (exponent : Int) : Nat × Int :=
  let interval := Interval.ofBinary mantissa exponent
  let top := magnitude interval.value interval.denominator
  let candidate (count : Nat) : Option (Nat × Int) :=
    let unit := top - count
    (interval.inUnits unit).nearest?.map (·, unit)
  match (List.range 17).findSome? candidate with
  | some (digits, unit) => stripZeros 20 digits unit
  | none => (mantissa * Nat.pow 2 exponent.toNat, 0)

/-- The decimal `digits * 10 ^ exponent` without an exponent: zeros are appended, or a point is
set with at least one digit before it. -/
def positional (digits : Nat) (exponent : Int) : List Char :=
  let written := Nat.toDigits 10 digits
  let places := (-exponent).toNat
  if places = 0 then written ++ List.replicate exponent.toNat '0'
  else
    let padded := List.replicate (places + 1 - written.length) '0' ++ written
    padded.take (padded.length - places) ++ '.' :: padded.drop (padded.length - places)

end Highlighter.Decimal
