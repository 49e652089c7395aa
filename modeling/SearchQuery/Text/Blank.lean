import SearchQuery.Text.Basic

/-!
# Blank characters

The characters that separate words: the white space of Unicode 14 and the four information
separators. `trim` takes blanks off both ends and `words` lists the maximal runs without blanks.
-/

namespace SearchQuery
namespace Text

/-- White space, in any script. -/
def isBlank (c : Char) : Bool :=
  let n := c.toNat
  (0x9 ≤ n && n ≤ 0xd) || (0x1c ≤ n && n ≤ 0x20) || n == 0x85 || n == 0xa0 || n == 0x1680 ||
    (0x2000 ≤ n && n ≤ 0x200a) || n == 0x2028 || n == 0x2029 || n == 0x202f || n == 0x205f ||
    n == 0x3000

def trimStart (s : Text) : Text := s.dropWhile isBlank

def trim (s : Text) : Text := (trimStart (trimStart s).reverse).reverse

/-- The words of a text that continues a word whose characters, last first, are given. -/
def wordsFrom (current : Text) : Text → List Text
  | [] => if current.isEmpty then [] else [current.reverse]
  | c :: rest =>
    if isBlank c then
      if current.isEmpty then wordsFrom [] rest else current.reverse :: wordsFrom [] rest
    else wordsFrom (c :: current) rest

/-- The maximal runs of characters that are not blank, in order. -/
def words (s : Text) : List Text := wordsFrom [] s

end Text
end SearchQuery
