/-!
# Binary floating-point numbers

The numbers of the 64-bit binary format, as exact values: a sign, a mantissa below `2 ^ 53` and
an exponent of two. Reading a decimal rounds it once, to the nearest number, and a tie goes to
the even mantissa.
-/

namespace Highlighter

/-- A number of the 64-bit binary floating-point format. -/
inductive Binary64 where
  /-- Not a number. Its sign has no meaning and is not kept. -/
  | nan
  | infinite (negative : Bool)
  /-- The number `± mantissa * 2 ^ exponent`. The mantissa has 53 bits unless the exponent is
  the least possible one, `-1074`. -/
  | finite (negative : Bool) (mantissa : Nat) (exponent : Int)
  deriving DecidableEq, Repr

namespace Binary64

/-- The least exponent. -/
def leastExponent : Int := -1074

/-- The greatest exponent. -/
def greatestExponent : Int := 971

/-- A fraction divided by a power of two. -/
def shiftFraction (numerator denominator : Nat) (exponent : Int) : Nat × Nat :=
  (numerator * Nat.pow 2 (-exponent).toNat, denominator * Nat.pow 2 exponent.toNat)

/-- The quotient rounded to the nearest natural number; a tie goes to the even one. -/
def roundQuotient (numerator denominator : Nat) : Nat :=
  let quotient := numerator / denominator
  let remainder := numerator % denominator
  if 2 * remainder < denominator then quotient
  else if denominator < 2 * remainder then quotient + 1
  else quotient + quotient % 2

/-- The exponent under which a positive fraction has a mantissa of 53 bits, or the least
exponent if that is greater. -/
def exponentOf (numerator denominator : Nat) : Int :=
  let estimate : Int := (numerator.log2 : Int) - denominator.log2 - 53
  let (n, d) := shiftFraction numerator denominator estimate
  max leastExponent (if n / d < Nat.pow 2 53 then estimate else estimate + 1)

/-- The number nearest to a positive fraction. -/
def ofFraction (negative : Bool) (numerator denominator : Nat) : Binary64 :=
  let exponent := exponentOf numerator denominator
  let (n, d) := shiftFraction numerator denominator exponent
  let mantissa := roundQuotient n d
  let (mantissa, exponent) :=
    if mantissa < Nat.pow 2 53 then (mantissa, exponent) else (Nat.pow 2 52, exponent + 1)
  if exponent ≤ greatestExponent then .finite negative mantissa exponent else .infinite negative

/-- The zero of a sign. -/
def zero (negative : Bool) : Binary64 :=
  .finite negative 0 leastExponent

/-- The number nearest to `digits * 10 ^ exponent`. Decimals far outside the range are settled
by their number of digits alone. -/
def ofDecimal (negative : Bool) (digits : Nat) (exponent : Int) : Binary64 :=
  if digits = 0 then zero negative
  else
    let magnitude : Int := (Nat.toDigits 10 digits).length + exponent
    if 310 < magnitude then .infinite negative
    else if magnitude < -330 then zero negative
    else ofFraction negative (digits * Nat.pow 10 exponent.toNat) (Nat.pow 10 (-exponent).toNat)

/-- Whether two numbers compare as equal: `nan` equals nothing, and the two zeros are equal. -/
def equal : Binary64 → Binary64 → Bool
  | .nan, _ | _, .nan => false
  | .finite _ 0 _, .finite _ 0 _ => true
  | left, right => decide (left = right)

end Binary64

end Highlighter
