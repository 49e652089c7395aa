import SearchQuery.Text.Basic
import SearchQuery.Text.UnprintableRanges

/-!
# Quoted texts

A text between quotation marks, on one line and with every character visible: the mark itself
and the backslash are written after a backslash, and a character that is not printable is
written as an escape. The mark is the apostrophe, unless the text has apostrophes and no
double quote.
-/

namespace SearchQuery
namespace Text

/-- Whether a character can be shown as it is. The space is the only printable blank. -/
def isPrintable (c : Char) : Bool :=
  let n := c.toNat
  if n < 0x7f then 0x20 ≤ n
  else !unprintableRanges.any fun range => range.1 ≤ n && n ≤ range.2

/-- One lower-case hexadecimal digit. -/
def hexDigit (n : Nat) : Char := Nat.digitChar (n % 16)

/-- The last `width` hexadecimal digits of a number. -/
def hexDigits : Nat → Nat → Text
  | 0, _ => []
  | width + 1, n => hexDigits width (n / 16) ++ [hexDigit n]

/-- A character that is not printable, as an escape of the least width that holds it. -/
def hexEscape (c : Char) : Text :=
  let n := c.toNat
  if n < 0x100 then '\\' :: 'x' :: hexDigits 2 n
  else if n < 0x10000 then '\\' :: 'u' :: hexDigits 4 n
  else '\\' :: 'U' :: hexDigits 8 n

/-- One character as written between two marks `mark`. -/
def escapeWithin (mark c : Char) : Text :=
  if c = mark ∨ c = '\\' then ['\\', c]
  else if c = '\n' then "\\n"
  else if c = '\r' then "\\r"
  else if c = '\t' then "\\t"
  else if isPrintable c then [c]
  else hexEscape c

/-- The mark that needs the fewer escapes; the apostrophe if in doubt. -/
def quotationMark (s : Text) : Char :=
  if s.contains '\x27' && !s.contains '"' then '"' else '\x27'

/-- The text between quotation marks. -/
def quoted (s : Text) : Text :=
  let mark := quotationMark s
  mark :: s.flatMap (escapeWithin mark) ++ [mark]

end Text
end SearchQuery
