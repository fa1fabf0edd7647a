import ValueSchema.Binary64.Basic

/-!
# Shortest decimals

The digits that stand for a floating point number: the fewest that read back to it, and of those the
nearest.  Of two decimals at the same distance a tie rule takes one.
-/

namespace ValueSchema.Binary64

/-- A decimal `digits * 10 ^ power`. -/
structure Decimal where
  digits : Nat
  power : Int
  deriving DecidableEq

/-- Which of two neighbouring decimals at the same distance is taken. -/
inductive Tie where
  /-- The upper one. -/
  | up
  /-- The one with the even last digit. -/
  | even
  deriving DecidableEq

/-- The lower of the two decimals is taken. -/
def Tie.takesLower (tie : Tie) (lower : Nat) : Bool :=
  match tie with
  | up => false
  | even => lower % 2 = 0

/-- The largest `k` with `10 ^ k` at most the positive fraction, for a fraction that is no power of
ten below one. -/
def floorLog10 (numerator denominator : Nat) : Int :=
  if denominator ≤ numerator then (decimalLength (numerator / denominator) : Int) - 1
  else -(decimalLength (denominator / numerator) : Int)

/-- A finite positive number with the reals that round to it, in quarters of its last place. -/
structure Interval where
  lower : Nat
  centre : Nat
  upper : Nat
  /-- The ends round to the number too. -/
  closed : Bool
  /-- The exponent of a quarter of the last place. -/
  exponent : Int

/-- The reals that round to `significand * 2 ^ exponent`.  Below a power of two the spacing of the
format halves. -/
def interval (significand : Nat) (exponent : Int) : Interval where
  lower :=
    if significand = leastNormal ∧ leastExponent < exponent then 4 * significand - 1
    else 4 * significand - 2
  centre := 4 * significand
  upper := 4 * significand + 2
  closed := significand % 2 = 0
  exponent := exponent - 2

/-- The candidate, in units of the grid, lies in the interval, given in the same units as fractions
over `denominator`. -/
def Interval.holds (i : Interval) (unit : Nat × Nat) (candidate : Nat) : Bool :=
  let lower := i.lower * unit.1
  let upper := i.upper * unit.1
  let point := candidate * unit.2
  if i.closed then lower ≤ point && point ≤ upper else lower < point && point < upper

/-- The multiple of `10 ^ power` next to the number that reads back to it, if one does, and of two
the nearer. -/
def Interval.onGrid? (tie : Tie) (i : Interval) (power : Int) : Option Decimal :=
  let unit := scale 10 (-power) (scale 2 i.exponent (1, 1))
  let below := i.centre * unit.1 / unit.2
  let twice := 2 * (i.centre * unit.1 % unit.2)
  match i.holds unit below, i.holds unit (below + 1) with
  | true, true =>
    let lower := twice < unit.2 || (twice = unit.2 && tie.takesLower below)
    some ⟨if lower then below else below + 1, power⟩
  | true, false => some ⟨below, power⟩
  | false, true => some ⟨below + 1, power⟩
  | false, false => none

/-- The first hit on the grids of more and more digits.  The count begins at zero because the number
may lie just below a power of ten that reads back to it. -/
def Interval.search (tie : Tie) (i : Interval) (top : Int) : Nat → Nat → Decimal
  | 0, _ => ⟨i.centre, i.exponent⟩
  | tries + 1, digits =>
    match i.onGrid? tie (top + 1 - digits) with
    | some decimal => decimal
    | none => i.search tie top tries (digits + 1)

/-- The shortest decimal that reads back to `significand * 2 ^ exponent`.  Seventeen digits always
suffice. -/
def shortest (tie : Tie) (significand : Nat) (exponent : Int) : Decimal :=
  let fraction := scale 2 exponent (significand, 1)
  (interval significand exponent).search tie (floorLog10 fraction.1 fraction.2) 18 0

end ValueSchema.Binary64
