import SearchQuery.Decimal.Binary64
import SearchQuery.Text.Blank
import SearchQuery.Text.Case
import SearchQuery.Text.DecimalDigit
import SearchQuery.Yaml.ScalarText

/-!
# Numbers in YAML texts

The values of the texts of integers and floating-point numbers. Underscores do not count. Integers
are written in base 2, 8, 10 or 16; both kinds may be written in base 60 with colons.
-/

namespace SearchQuery
namespace Yaml

/-- A sign at the start of a text: whether it is a minus, and what follows it. -/
def splitSign (t : Text) : Bool × Text :=
  match t with
  | '-' :: rest => (true, rest)
  | '+' :: rest => (false, rest)
  | _ => (false, t)

/-- The value of a digit in a base up to sixteen: decimal digits of any script, and letters. -/
def digitValue? (base : Nat) (c : Char) : Option Nat :=
  ((Text.decimalValue? c).orElse fun _ => hexValue? c).filter (· < base)

/-- The number that digits spell, if there is at least one and all are digits of the base. -/
def digitsValue? (base : Nat) (t : Text) : Option Nat :=
  if t.isEmpty then none
  else t.foldlM (fun value c => (digitValue? base c).map fun d => base * value + d) 0

/-- The text without the mark of a base at its start. -/
def dropBaseMark (base : Nat) (t : Text) : Text :=
  let mark (c : Char) : Bool :=
    (base = 2 && (c = 'b' || c = 'B')) || (base = 8 && (c = 'o' || c = 'O')) ||
      (base = 16 && (c = 'x' || c = 'X'))
  match t with
  | '0' :: c :: rest => if mark c then rest else t
  | _ => t

/-- An integer in a base, with blanks around it, a sign and a mark of the base allowed. -/
def integer? (base : Nat) (t : Text) : Except Fault Int :=
  let (negative, digits) := splitSign t.trim
  let digits := dropBaseMark base digits
  if base = 10 ∧ digits.length > mostDecimalDigits then .error .invalidScalar
  else
    match digitsValue? base digits with
    | some n => .ok (if negative then -n else n)
    | none => .error .invalidScalar

def withoutUnderscores (t : Text) : Text := t.filter (· != '_')

def intValue (t : Text) : Except Fault Int := do
  let (negative, digits) := splitSign (withoutUnderscores t)
  let magnitude ←
    match withoutUnderscores t, digits with
    | [], _ => throw .emptyNumber
    | _, [] => throw .emptyNumber
    | _, ['0'] => pure 0
    | _, '0' :: 'b' :: rest => integer? 2 rest
    | _, '0' :: 'x' :: rest => integer? 16 rest
    | _, '0' :: rest => integer? 8 ('0' :: rest)
    | _, digits =>
      if digits.contains ':' then do
        let parts ← (Text.splitAtChar ':' digits).mapM (integer? 10)
        pure (parts.foldl (fun value part => 60 * value + part) 0)
      else integer? 10 digits
  return if negative then -magnitude else magnitude

/-- Digits with at most one point among them: all digits as a number, and how many follow the
point. At least one digit is needed. -/
def pointed? (t : Text) : Option (Nat × Nat) :=
  let isPoint (c : Char) := c == '.'
  let whole := t.takeWhile (!isPoint ·)
  let fraction := (t.dropWhile (!isPoint ·)).drop 1
  (digitsValue? 10 (whole ++ fraction)).map fun n => (n, fraction.length)

/-- A floating-point number with blanks around it and a sign and an exponent allowed, in lower
case. -/
def float? (t : Text) : Option Binary64 :=
  let (negative, body) := splitSign t.trim
  if body = "inf" ∨ body = "infinity" then some (.infinite negative)
  else if body = "nan" then some .nan
  else
    let mantissa := body.takeWhile (· != 'e')
    let exponent : Option Int :=
      match body.dropWhile (· != 'e') with
      | [] => some 0
      | _ :: e =>
        let (negative, digits) := splitSign e
        (digitsValue? 10 digits).map fun n => if negative then -n else n
    match pointed? mantissa, exponent with
    | some (digits, places), some e => some (Binary64.ofDecimal negative digits (e - places))
    | _, _ => none

/-- Parts in base 60, the last one first, added to a value; `unit` is what the next part counts. -/
def sexagesimal (value : Binary64) (unit : Nat) : List Binary64 → Except Fault Binary64
  | [] => .ok value
  | part :: rest =>
    match Binary64.ofInt unit with
    | .infinite _ => .error .tooLarge
    | scale => sexagesimal (value.add (part.mul scale)) (60 * unit) rest

/-- Whether a text is the constant that stands for no number, in any case and with any sign. -/
def isNanConstant (t : Text) : Bool := (splitSign (withoutUnderscores t).lower).2 = ".nan"

def floatValue (t : Text) : Except Fault Binary64 := do
  let t := (withoutUnderscores t).lower
  let (negative, body) := splitSign t
  let magnitude ←
    if t.isEmpty then throw .emptyNumber
    else if body = ".inf" then pure (.infinite false)
    else if body = ".nan" then pure .nan
    else if body.contains ':' then
      match (Text.splitAtChar ':' body).mapM float? with
      | some parts => sexagesimal (.zero false) 1 parts.reverse
      | none => throw .invalidScalar
    else
      match float? body with
      | some x => pure x
      | none => throw .invalidScalar
  return if negative then magnitude.neg else magnitude

end Yaml
end SearchQuery
