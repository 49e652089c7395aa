/-!
# Binary floating-point numbers

The double-precision numbers as exact values: a finite number is a sign, a mantissa below `2 ^ 53`
and a power of two. Every operation computes the exact rational result and rounds it once, to
the nearest number and to the even mantissa on a tie.
-/

namespace SearchQuery

def twoTo (n : Nat) : Nat := Nat.pow 2 n

def tenTo (n : Nat) : Nat := Nat.pow 10 n

/-- A double-precision number. A finite one is `mantissa * 2 ^ exponent`, where the mantissa is at
least `2 ^ 52` or the exponent is the least one, `-1074`; both zeros have mantissa `0`. -/
inductive Binary64 where
  | nan
  | infinite (negative : Bool)
  | finite (negative : Bool) (mantissa : Nat) (exponent : Int)
  deriving DecidableEq, Repr

namespace Binary64

/-- The exponent of the least positive number. -/
def leastExponent : Int := -1074

def greatestExponent : Int := 971

def zero (negative : Bool) : Binary64 := .finite negative 0 leastExponent

/-- The natural number nearest to `num / den`, the even one of two that are equally near. -/
def roundDiv (num den : Nat) : Nat :=
  let quotient := num / den
  let twice := 2 * (num % den)
  if twice < den then quotient
  else if den < twice then quotient + 1
  else if quotient % 2 = 0 then quotient
  else quotient + 1

/-- The quotient `num / den` divided by `2 ^ exponent`, as a numerator and a denominator. -/
def scaled (num den : Nat) (exponent : Int) : Nat × Nat :=
  if 0 ≤ exponent then (num, den * twoTo exponent.toNat)
  else (num * twoTo (-exponent).toNat, den)

/-- The exponent at which `num / den` has a mantissa of 53 digits, or the least exponent. -/
def exponentOf (num den : Nat) : Int :=
  let low : Int := (num.log2 : Int) - den.log2 - 53
  let ratio := scaled num den low
  let exponent := if twoTo 53 * ratio.2 ≤ ratio.1 then low + 1 else low
  max exponent leastExponent

/-- The number nearest to the quotient of two natural numbers, under a sign. -/
def ofRatio (negative : Bool) (num den : Nat) : Binary64 :=
  if num = 0 then zero negative
  else
    let exponent := exponentOf num den
    let ratio := scaled num den exponent
    let mantissa := roundDiv ratio.1 ratio.2
    if mantissa = twoTo 53 then
      if exponent + 1 > greatestExponent then .infinite negative
      else .finite negative (twoTo 52) (exponent + 1)
    else if exponent > greatestExponent then .infinite negative
    else .finite negative mantissa exponent

/-- The number nearest to `digits * 10 ^ power`. Powers far outside the range of finite numbers are
settled without computing them. -/
def ofDecimal (negative : Bool) (digits : Nat) (power : Int) : Binary64 :=
  if digits = 0 then zero negative
  else
    let size := power + (Nat.toDigits 10 digits).length
    if size > 400 then .infinite negative
    else if size < -400 then zero negative
    else if 0 ≤ power then ofRatio negative (digits * tenTo power.toNat) 1
    else ofRatio negative digits (tenTo (-power).toNat)

def ofInt (i : Int) : Binary64 := ofRatio (i < 0) i.natAbs 1

def neg : Binary64 → Binary64
  | .nan => .nan
  | .infinite s => .infinite !s
  | .finite s m e => .finite (!s) m e

/-- A number with sign `negative` and magnitude `magnitude * 2 ^ exponent`, rounded. -/
def ofScaled (negative : Bool) (magnitude : Nat) (exponent : Int) : Binary64 :=
  if 0 ≤ exponent then ofRatio negative (magnitude * twoTo exponent.toNat) 1
  else ofRatio negative magnitude (twoTo (-exponent).toNat)

def add : Binary64 → Binary64 → Binary64
  | .nan, _ => .nan
  | _, .nan => .nan
  | .infinite s, .infinite t => if s = t then .infinite s else .nan
  | .infinite s, .finite .. => .infinite s
  | .finite .., .infinite t => .infinite t
  | .finite s m e, .finite t n f =>
    let low := min e f
    let left : Int := m * twoTo (e - low).toNat
    let right : Int := n * twoTo (f - low).toNat
    let sum := (if s then -left else left) + (if t then -right else right)
    if sum = 0 then zero (s && t) else ofScaled (sum < 0) sum.natAbs low

def mul : Binary64 → Binary64 → Binary64
  | .nan, _ => .nan
  | _, .nan => .nan
  | .infinite s, .infinite t => .infinite (s != t)
  | .infinite s, .finite t n _ => if n = 0 then .nan else .infinite (s != t)
  | .finite s m _, .infinite t => if m = 0 then .nan else .infinite (s != t)
  | .finite s m e, .finite t n f => ofScaled (s != t) (m * n) (e + f)

/-- The integer that the number equals, if there is one. -/
def toInt? : Binary64 → Option Int
  | .nan => none
  | .infinite _ => none
  | .finite s m e =>
    let signed (n : Nat) : Int := if s then -n else n
    if 0 ≤ e then some (signed (m * twoTo e.toNat))
    else if m % twoTo (-e).toNat = 0 then some (signed (m / twoTo (-e).toNat))
    else none

def isZero : Binary64 → Bool
  | .finite _ m _ => m == 0
  | _ => false

end Binary64
end SearchQuery
