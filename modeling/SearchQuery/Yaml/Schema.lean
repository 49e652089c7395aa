import SearchQuery.Text.Base64
import SearchQuery.Value.Basic
import SearchQuery.Yaml.Number
import SearchQuery.Yaml.Timestamp

/-!
# The schema

Which kinds of node there are, which kind the text of an unquoted scalar has, and what scalar a
text of a kind stands for. An integer has no point, a floating-point number has one and a sign
in its exponent, and the words for truth values and null come in three spellings each.
-/

namespace SearchQuery
namespace Yaml

/-- The kinds of nodes; `other` is any kind that is not known. -/
inductive Tag where
  | null
  | bool
  | int
  | float
  | str
  | binary
  | timestamp
  | seq
  | map
  | set
  | pairs
  | merge
  | value
  | other
  deriving DecidableEq, Repr

namespace Tag

/-- What the names of all known kinds start with. -/
def authority : Text := "tag:yaml.org,2002:"

def known : List (Text × Tag) :=
  [("null", .null), ("bool", .bool), ("int", .int), ("float", .float), ("str", .str),
    ("binary", .binary), ("timestamp", .timestamp), ("seq", .seq), ("map", .map), ("set", .set),
    ("omap", .pairs), ("pairs", .pairs), ("merge", .merge), ("value", .value)]

def ofUri (uri : Text) : Tag :=
  if authority.isPrefixOf uri then (known.lookup (uri.drop authority.length)).getD .other
  else .other

end Tag

/-- A word in lower case, capitalised and in upper case. -/
def spellings (word : Text) : List Text :=
  [word, (word.take 1).map Char.toUpper ++ word.drop 1, word.map Char.toUpper]

/-- The words for truth values, in lower case. -/
def boolWords : List (Text × Bool) :=
  [("yes", true), ("no", false), ("true", true), ("false", false), ("on", true), ("off", false)]

def isBoolWord (t : Text) : Bool := boolWords.any fun entry => (spellings entry.1).contains t

def isNullWord (t : Text) : Bool := t = "~" || (spellings "null").contains t

def isDigitOrUnderscore (c : Char) : Bool := c.isDigit || c = '_'

/-- A digit, then digits and underscores. -/
def isDigits (t : Text) : Bool := t.head?.any Char.isDigit && t.all isDigitOrUnderscore

/-- One or two digits below sixty. -/
def isSixtieth (t : Text) : Bool :=
  match t with
  | [d] => d.isDigit
  | [d, e] => '0' ≤ d && d ≤ '5' && e.isDigit
  | _ => false

/-- Whether the parts after the first of a number in base 60 are as they should be. -/
def areSixtieths (parts : List Text) : Bool := !parts.isEmpty && parts.all isSixtieth

def isInt (t : Text) : Bool :=
  let body := (splitSign t).2
  let all (p : Char → Bool) (ds : Text) : Bool := !ds.isEmpty && ds.all p
  match body with
  | '0' :: 'b' :: ds => all (fun c => c = '0' || c = '1' || c = '_') ds
  | '0' :: 'x' :: ds => all (fun c => (hexValue? c).isSome || c = '_') ds
  | ['0'] => true
  | '0' :: ds => all (fun c => ('0' ≤ c && c ≤ '7') || c = '_') ds
  | _ =>
    isDigits body ||
      match Text.splitAtChar ':' body with
      | first :: parts => isDigits first && areSixtieths parts
      | [] => false

/-- Nothing, or an exponent with a sign. -/
def isExponent (t : Text) : Bool :=
  match t with
  | [] => true
  | e :: sign :: ds =>
    (e = 'e' || e = 'E') && (sign = '+' || sign = '-') && !ds.isEmpty && ds.all Char.isDigit
  | _ => false

/-- The text before and after the first point. -/
def splitPoint? (t : Text) : Option (Text × Text) :=
  match t.dropWhile (· != '.') with
  | [] => none
  | _ :: fraction => some (t.takeWhile (· != '.'), fraction)

def isFloat (t : Text) : Bool :=
  let (signed, body) := (t != (splitSign t).2, (splitSign t).2)
  match splitPoint? body with
  | none => false
  | some (whole, fraction) =>
    let exponent := fraction.dropWhile isDigitOrUnderscore
    if whole.isEmpty then
      (!signed && fraction.head?.any Char.isDigit && isExponent exponent) ||
        (spellings "inf").contains fraction ||
        (!signed && (["nan".toList, "NaN".toList, "NAN".toList]).contains fraction)
    else
      (isDigits whole && isExponent exponent) ||
        (fraction.all isDigitOrUnderscore &&
          match Text.splitAtChar ':' whole with
          | first :: parts => isDigits first && areSixtieths parts
          | [] => false)

/-- Whether a text is a lone sign that elsewhere begins a tag, an anchor or an alias. Such a sign is
of a kind of its own, which has no values. -/
def isIndicator (t : Text) : Bool := t = "!" || t = "&" || t = "*"

/-- The text without one line feed at its end. -/
def dropFinalBreak (t : Text) : Text := if t.getLast? = some '\n' then t.dropLast else t

/-- The kind of a scalar that is written without quotes and without a tag. -/
def resolve (t : Text) : Tag :=
  let body := dropFinalBreak t
  if t.isEmpty then .null
  else if body.isEmpty then .str
  else if isBoolWord body then .bool
  else if isFloat body then .float
  else if isInt body then .int
  else if body = "<<" then .merge
  else if isNullWord body then .null
  else if Timestamp.isPlain body then .timestamp
  else if body = "=" then .value
  else if isIndicator body then .other
  else .str

/-- The scalar that a text of a kind stands for. -/
def scalarValue (tag : Tag) (t : Text) : Except Fault Scalar :=
  match tag with
  | .null => .ok .null
  | .str => .ok (.text t)
  | .bool =>
    match boolWords.lookup t.lower with
    | some b => .ok (.bool b)
    | none => .error .unknownWord
  | .int => (intValue t).map .int
  | .float => (floatValue t).map fun x => if x = .nan ∧ !isNanConstant t then .nan else .float x
  | .binary =>
    if t.all (·.toNat < 0x80) then
      match Text.ofBase64? t with
      | some octets => .ok (.bytes octets)
      | none => .error .malformed
    else .error .malformed
  | .timestamp =>
    match Timestamp.ofText? (dropFinalBreak t) with
    | none => .error .notATimestamp
    | some stamp =>
      if !stamp.isDate then .error .invalidScalar
      else
        match stamp.time with
        | none => .ok (.date stamp.year stamp.month stamp.day)
        | some time =>
          if Timestamp.isTime time then .ok (.moment (stamp.instant time) time.zone.isSome)
          else .error .invalidScalar
  | _ => .error .malformed

end Yaml
end SearchQuery
