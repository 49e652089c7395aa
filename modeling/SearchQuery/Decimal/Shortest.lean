import SearchQuery.Decimal.Binary64

/-!
# Shortest decimals

The decimal with the fewest significant digits that reads back as a given number and, of those,
the one nearest to it. The search is exact: with `1, 2, …, 17` digits it looks at the two
decimals around the number and takes one inside the interval of reals that round to it.
-/

namespace SearchQuery
namespace Decimal

/-- The decimal `digits * 10 ^ power`. -/
structure Digits where
  digits : Nat
  power : Int
  deriving DecidableEq, Repr

/-- The interval of reals that round to a number, in a unit in which all bounds are natural
numbers over `den`: the number itself, its lower and its upper end, and whether the ends belong
to it. -/
structure Interval where
  value : Nat
  lower : Nat
  upper : Nat
  den : Nat
  closed : Bool

/-- The interval around `mantissa * 2 ^ exponent`, in quarters of the last place. At a power of two
the gap below is half the gap above. -/
def intervalOf (mantissa : Nat) (exponent : Int) : Interval :=
  let narrow := mantissa = twoTo 52 ∧ exponent > Binary64.leastExponent
  let scale := if 0 ≤ exponent then twoTo exponent.toNat else 1
  let den := if 0 ≤ exponent then 4 else 4 * twoTo (-exponent).toNat
  { value := 4 * mantissa * scale
    lower := (4 * mantissa - (if narrow then 1 else 2)) * scale
    upper := (4 * mantissa + 2) * scale
    den := den
    closed := mantissa % 2 = 0 }

/-- Whether `digits * 10 ^ power` lies in the interval. -/
def Interval.holds (i : Interval) (d : Digits) : Bool :=
  let num := if 0 ≤ d.power then d.digits * tenTo d.power.toNat * i.den else d.digits * i.den
  let scale := if 0 ≤ d.power then 1 else tenTo (-d.power).toNat
  if i.closed then i.lower * scale ≤ num && num ≤ i.upper * scale
  else i.lower * scale < num && num < i.upper * scale

/-- The power of ten of the leading digit of a positive quotient. -/
def leadingPower (num den : Nat) : Int :=
  let guess : Int := (Nat.toDigits 10 num).length - (Nat.toDigits 10 den).length
  let reached :=
    if 0 ≤ guess then decide (den * tenTo guess.toNat ≤ num)
    else decide (den ≤ num * tenTo (-guess).toNat)
  if reached then guess else guess - 1

/-- The decimal in the interval on the grid of `10 ^ power`, the nearer one of two and the even
one of two that are equally near. -/
def onGrid (i : Interval) (power : Int) : Option Digits :=
  let num := if 0 ≤ power then i.value else i.value * tenTo (-power).toNat
  let den := if 0 ≤ power then i.den * tenTo power.toNat else i.den
  let below : Digits := ⟨num / den, power⟩
  let above : Digits := ⟨num / den + 1, power⟩
  match i.holds below, i.holds above with
  | true, true =>
    let twice := 2 * (num % den)
    if twice < den ∨ twice = den ∧ below.digits % 2 = 0 then some below else some above
  | true, false => some below
  | false, true => some above
  | false, false => none

/-- The first hit among the grids of `count`, `count + 1`, … digits, `fuel` grids at most. -/
def searchFrom (i : Interval) (leading : Int) (count : Nat) : Nat → Option Digits
  | 0 => none
  | fuel + 1 =>
    match onGrid i (leading - (count - 1)) with
    | some d => some d
    | none => searchFrom i leading (count + 1) fuel

/-- The shortest decimal of a positive number `mantissa * 2 ^ exponent`. -/
def shortest (mantissa : Nat) (exponent : Int) : Digits :=
  let i := intervalOf mantissa exponent
  (searchFrom i (leadingPower i.value i.den) 1 17).getD ⟨0, 0⟩

end Decimal
end SearchQuery
