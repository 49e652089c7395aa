import SearchQuery.Text.Quoted
import SearchQuery.Decimal.Layout
import SearchQuery.Value.Basic

/-!
# Values in messages

How messages show a value on one line: texts are quoted, and lists, mappings and sets are written
between brackets with commas.
-/

namespace SearchQuery

/-- A number written with at least `width` digits. -/
def Text.padded (width n : Nat) : Text :=
  let digits := Text.ofNat n
  List.replicate (width - digits.length) '0' ++ digits

namespace Scalar

/-- One octet between apostrophes. -/
def octetLiteral (octet : UInt8) : Text :=
  let n := octet.toNat
  if n = 0x27 ∨ n = 0x5c then ['\\', Char.ofNat n]
  else if n = 0xa then "\\n"
  else if n = 0xd then "\\r"
  else if n = 0x9 then "\\t"
  else if 0x20 ≤ n ∧ n < 0x7f then [Char.ofNat n]
  else '\\' :: 'x' :: Text.hexDigits 2 n

def literal : Scalar → Text
  | .null => "None"
  | .bool b => if b then "True" else "False"
  | .int i => Text.ofInt i
  | .float x => x.toText
  | .nan => Binary64.toText .nan
  | .text t => t.quoted
  | .bytes octets => "b\x27" ++ octets.flatMap octetLiteral ++ "\x27"
  | .date year month day =>
    Text.padded 4 year ++ "-" ++ Text.padded 2 month ++ "-" ++ Text.padded 2 day
  | .moment microseconds zoned => Text.ofInt microseconds ++ if zoned then "Z".toList else []

end Scalar

namespace Value

mutual

def literal : Value → Text
  | .scalar s => s.literal
  | .list items => "[" ++ Text.joinWith ", " (literalsOf items) ++ "]"
  | .map entries => "\x7b" ++ Text.joinWith ", " (entryLiterals entries) ++ "\x7d"
  | .set members =>
    if members.isEmpty then "set()"
    else "\x7b" ++ Text.joinWith ", " (members.map Scalar.literal) ++ "\x7d"

def literalsOf : List Value → List Text
  | [] => []
  | v :: rest => literal v :: literalsOf rest

def entryLiterals : List (Scalar × Value) → List Text
  | [] => []
  | (key, v) :: rest => (key.literal ++ ": " ++ literal v) :: entryLiterals rest

end

end Value
end SearchQuery
