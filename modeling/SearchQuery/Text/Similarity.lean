import SearchQuery.Text.Basic

/-!
# Similar texts

How much two texts have in common: the longest piece that occurs in both, the longest such pieces
on its left and on its right, and so on. Two texts are similar if the pieces make up at least
three fifths of both together.
-/

namespace SearchQuery
namespace Text

/-- The number of characters that two texts start with in common. -/
def commonLength : Text → Text → Nat
  | a :: s, b :: t => if a = b then commonLength s t + 1 else 0
  | _, _ => 0

/-- The longest piece that two texts have in common, the first of several: where it starts in each
of them, and its length. -/
def longestCommon (s t : Text) : Nat × Nat × Nat :=
  (List.range s.length).foldl
    (fun best i =>
      (List.range t.length).foldl
        (fun best j =>
          let length := commonLength (s.drop i) (t.drop j)
          if best.2.2 < length then (i, j, length) else best) best) (0, 0, 0)

/-- The number of characters in all common pieces. -/
def commonCount (s t : Text) : Nat → Nat
  | 0 => 0
  | fuel + 1 =>
    let (i, j, length) := longestCommon s t
    if length = 0 then 0
    else
      commonCount (s.take i) (t.take j) fuel + length +
        commonCount (s.drop (i + length)) (t.drop (j + length)) fuel

def isSimilar (s t : Text) : Bool :=
  3 * (s.length + t.length) ≤ 10 * commonCount s t s.length

end Text
end SearchQuery
