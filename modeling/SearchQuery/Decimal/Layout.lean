import SearchQuery.Text.Basic
import SearchQuery.Decimal.Shortest

/-!
# Numbers as text

A number is written with its shortest decimal: in positions when the leading digit has a power
from `-4` to `15`, and with an exponent of at least two digits otherwise. A number without a
fraction keeps one zero after the point.
-/

namespace SearchQuery

namespace Decimal

/-- The least and the greatest power of the leading digit that is written in positions. -/
def leastPositional : Int := -4
def greatestPositional : Int := 15

/-- The digits without the zeros at their end. -/
def significant (digits : Nat) : Text :=
  ((Nat.toDigits 10 digits).reverse.dropWhile (· == '0')).reverse

/-- Digits with a point after `whole` of them, filled up with zeros on either side. -/
def inPositions (digits : Text) (power : Int) : Text :=
  if power < 0 then "0." ++ List.replicate (-power - 1).toNat '0' ++ digits
  else
    let whole := power.toNat + 1
    let padded := digits ++ List.replicate (whole - digits.length) '0'
    let fraction := padded.drop whole
    padded.take whole ++ ['.'] ++ if fraction.isEmpty then ['0'] else fraction

/-- One digit, the others after a point, and the power of ten of the first. -/
def withExponent (digits : Text) (power : Int) : Text :=
  let mantissa :=
    match digits with
    | [] => []
    | [d] => [d]
    | d :: rest => d :: '.' :: rest
  let magnitude := Text.ofNat power.natAbs
  mantissa ++ (if power < 0 then "e-" else "e+") ++
    (if magnitude.length < 2 then '0' :: magnitude else magnitude)

def write (d : Digits) : Text :=
  let digits := significant d.digits
  let power := d.power + (Nat.toDigits 10 d.digits).length - 1
  if leastPositional ≤ power ∧ power ≤ greatestPositional then inPositions digits power
  else withExponent digits power

end Decimal

namespace Binary64

/-- The text of a number, which reads back as the number. -/
def toText : Binary64 → Text
  | .nan => "nan"
  | .infinite negative => if negative then "-inf" else "inf"
  | .finite negative mantissa exponent =>
    let magnitude :=
      if mantissa = 0 then "0.0".toList else Decimal.write (Decimal.shortest mantissa exponent)
    if negative then '-' :: magnitude else magnitude

end Binary64
end SearchQuery
