import ValueSchema.Binary64.Shortest

/-!
# Layouts of numbers

The text of a floating point number is its shortest decimal, written in positional or in scientific
notation.  A layout says which of the two is used at which magnitude, and how a tie between two
decimals is settled.
-/

namespace ValueSchema.Binary64

namespace Decimal

/-- The exponent of the leading digit. -/
def magnitude (d : Decimal) : Int := decimalLength d.digits + d.power - 1

/-- Positional notation, with at least one digit on each side of the point. -/
def positional (d : Decimal) : List Char :=
  let digits := Nat.toDigits 10 d.digits
  if 0 ≤ d.power then digits ++ List.replicate d.power.toNat '0' ++ ['.', '0']
  else
    let places := (-d.power).toNat
    let padded := List.replicate (places + 1 - digits.length) '0' ++ digits
    padded.take (padded.length - places) ++ ['.'] ++ padded.drop (padded.length - places)

/-- Scientific notation: the leading digit, the others after a point if there are any, and the
exponent with its sign. -/
def scientific (d : Decimal) : List Char :=
  let digits := Nat.toDigits 10 d.digits
  let others := digits.drop 1
  digits.take 1 ++ (if others = [] then [] else '.' :: others) ++
    ['e', if d.magnitude < 0 then '-' else '+'] ++ Nat.toDigits 10 d.magnitude.natAbs

end Decimal

/-- How numbers are laid out as text. -/
structure Layout where
  tie : Tie
  /-- The least and the greatest magnitude in positional notation; every magnitude, if not given. -/
  positionalRange : Option (Int × Int)
  deriving DecidableEq

namespace Layout

/-- Decimals of this magnitude are written in positional notation. -/
def isPositional (layout : Layout) (magnitude : Int) : Bool :=
  match layout.positionalRange with
  | none => true
  | some (least, greatest) => least ≤ magnitude && magnitude ≤ greatest

/-- A decimal in the notation of its magnitude. -/
def write (layout : Layout) (d : Decimal) : List Char :=
  if layout.isPositional d.magnitude then d.positional else d.scientific

end Layout

def text (layout : Layout) : Binary64 → String
  | .nan => "NaN"
  | .infinity negative => if negative then "-inf" else "inf"
  | .finite negative significand exponent =>
    let decimal : Decimal :=
      if significand = 0 then ⟨0, 0⟩ else shortest layout.tie significand exponent
    String.ofList ((if negative then ['-'] else []) ++ layout.write decimal)

end ValueSchema.Binary64
