/-!
# Binary floating point numbers

The numbers of the binary64 format, held exactly: a finite one is a significand times a power of
two.  A decimal is read as the nearest number of the format, and of two equally near ones as the one
with the even significand; a decimal beyond the largest finite number is read as infinity.
-/

namespace ValueSchema

/-- A number of the binary64 format.  A finite number stands for `significand * 2 ^ exponent`, with
a significand below `2 ^ 53` and an exponent from `-1074` to `971`. -/
inductive Binary64 where
  | nan
  | infinity (negative : Bool)
  | finite (negative : Bool) (significand : Nat) (exponent : Int)
  deriving DecidableEq

namespace Binary64

/-- The exponent of the smallest positive number. -/
def leastExponent : Int := -1074

/-- The exponent of the largest finite number. -/
def greatestExponent : Int := 971

/-- Two to the power of 52: the least significand of a number that is not subnormal. -/
def leastNormal : Nat := 0x10000000000000

/-- Two to the power of 53: the bound of the significands. -/
def significandBound : Nat := 0x20000000000000

def zero (negative : Bool) : Binary64 := .finite negative 0 leastExponent

/-- Numeric equality: the two zeros are equal, and no number equals `nan`. -/
def same : Binary64 → Binary64 → Bool
  | .nan, _ => false
  | _, .nan => false
  | .finite _ 0 _, .finite _ 0 _ => true
  | left, right => left = right

/-- The quotient rounded to the nearest integer, a half to the even one. -/
def roundQuotient (numerator denominator : Nat) : Nat :=
  let floor := numerator / denominator
  let twice := 2 * (numerator % denominator)
  if twice < denominator then floor
  else if denominator < twice then floor + 1
  else if floor % 2 = 0 then floor
  else floor + 1

/-- Multiplies the fraction by a power of the base. -/
def scale (base : Nat) (power : Int) (fraction : Nat × Nat) : Nat × Nat :=
  (fraction.1 * Nat.pow base power.toNat, fraction.2 * Nat.pow base (-power).toNat)

/-- The largest `k` with `2 ^ k` at most the positive fraction. -/
def floorLog2 (numerator denominator : Nat) : Int :=
  let guess : Int := (Nat.log2 numerator : Int) - (Nat.log2 denominator : Int)
  let scaled := scale 2 (-guess) (numerator, denominator)
  if scaled.2 ≤ scaled.1 then guess else guess - 1

/-- The number of the format nearest to a positive fraction. -/
def ofFraction (negative : Bool) (numerator denominator : Nat) : Binary64 :=
  let exponent := max leastExponent (floorLog2 numerator denominator - 52)
  let scaled := scale 2 (-exponent) (numerator, denominator)
  let significand := roundQuotient scaled.1 scaled.2
  let rounded : Nat × Int :=
    if significand = significandBound then (leastNormal, exponent + 1)
    else (significand, exponent)
  if greatestExponent < rounded.2 then .infinity negative
  else .finite negative rounded.1 rounded.2

def decimalLength (n : Nat) : Nat := (Nat.toDigits 10 n).length

/-- The number of the format nearest to `digits * 10 ^ power`.  Magnitudes far outside the format
are settled by their length alone. -/
def ofDecimal (negative : Bool) (digits : Nat) (power : Int) : Binary64 :=
  let magnitude : Int := decimalLength digits + power
  if digits = 0 then zero negative
  else if magnitude < -330 then zero negative
  else if 330 < magnitude then .infinity negative
  else
    let fraction := scale 10 power (digits, 1)
    ofFraction negative fraction.1 fraction.2

end Binary64

end ValueSchema
