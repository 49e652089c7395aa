import SearchQuery.Text.Basic
import SearchQuery.Text.CaseRuns
import SearchQuery.Text.CasedRanges

/-!
# Upper, lower and folded forms

The full case mappings: a character may become several. A capital sigma has the final small form
at the end of a word. `fold` maps texts that differ only in case to one text.
-/

namespace SearchQuery
namespace Text

/-- The code point that a list of runs maps `n` to, if one of them holds `n`. -/
def applyRuns (runs : List CaseRun) (n : Nat) : Option Nat :=
  (runs.find? fun run => run.first ≤ n && n ≤ run.last && (n - run.first) % run.step == 0).map
    fun run => ((n : Int) + run.offset).toNat

/-- A character mapped by the expansions, else by the runs, else to itself. -/
def mapCharacter (expansions : List (Nat × List Nat)) (runs : List CaseRun) (c : Char) : Text :=
  match expansions.lookup c.toNat with
  | some ns => ns.map Char.ofNat
  | none =>
    match applyRuns runs c.toNat with
    | some n => [Char.ofNat n]
    | none => [c]

def isInRanges (ranges : List (Nat × Nat)) (c : Char) : Bool :=
  ranges.any fun range => range.1 ≤ c.toNat && c.toNat ≤ range.2

/-- Whether the first character that is not skipped is a letter with case. -/
def startsCased (s : Text) : Bool :=
  match s.dropWhile (isInRanges caseIgnorableRanges) with
  | [] => false
  | c :: _ => isInRanges casedRanges c

/-- The lower form of a text that stands after the characters `before`, last first. -/
def lowerFrom (before : Text) : Text → Text
  | [] => []
  | c :: rest =>
    let form :=
      if c = 'Σ' then
        if startsCased before && !startsCased rest then ['ς'] else ['σ']
      else mapCharacter lowerExpansions lowerRuns c
    form ++ lowerFrom (c :: before) rest

def lower (s : Text) : Text := lowerFrom [] s

def upper (s : Text) : Text := s.flatMap (mapCharacter upperExpansions upperRuns)

/-- The text in a form that does not depend on case. -/
def fold (s : Text) : Text :=
  s.flatMap fun c =>
    match foldExpansions.lookup c.toNat with
    | some ns => ns.map Char.ofNat
    | none =>
      match applyRuns foldRuns c.toNat with
      | some n => [Char.ofNat n]
      | none => mapCharacter lowerExpansions lowerRuns c

end Text
end SearchQuery
