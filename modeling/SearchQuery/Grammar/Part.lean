import SearchQuery.Query.Clause
import SearchQuery.Text.Quoted

/-!
# Parts of a tree that has been read

What becomes of the nodes of a tree: a branch `clause` becomes a clause and a branch `start` a
list. Everything else stays what it is, with its children read.
-/

namespace SearchQuery

inductive Part where
  | token (kind text : Text)
  | branch (label : Text) (children : List Part)
  | absent
  | clause (c : Clause)
  | list (parts : List Part)
  deriving Repr

def Clause.literal (c : Clause) : Text :=
  let role :=
    "<Operator." ++ c.role.name.map Char.toUpper ++ ": " ++ Text.quoted c.role.name ++ ">"
  match c.body with
  | .term t => "TermClause(operator=" ++ role ++ ", term=" ++ t.quoted ++ ")"
  | .phrase p => "PhraseClause(operator=" ++ role ++ ", phrase=" ++ p.quoted ++ ")"

namespace Part

mutual

/-- The part on one line, as messages show it. -/
def literal : Part → Text
  | .token kind text => "Token(" ++ kind.quoted ++ ", " ++ text.quoted ++ ")"
  | .branch label children =>
    "Tree(" ++ label.quoted ++ ", [" ++ Text.joinWith ", " (literalsOf children) ++ "])"
  | .absent => "None"
  | .clause c => c.literal
  | .list parts => "[" ++ Text.joinWith ", " (literalsOf parts) ++ "]"

def literalsOf : List Part → List Text
  | [] => []
  | p :: rest => literal p :: literalsOf rest

end

/-- The text of a token, and the literal of any other part. -/
def spelling : Part → Text
  | .token _ text => text
  | p => p.literal

/-- The clauses among the items of a list. -/
def clauses : Part → List Clause
  | .list parts => parts.filterMap fun
    | .clause c => some c
    | _ => none
  | _ => []

@[simp] theorem clauses_list_map (cs : List Clause) : (list (cs.map clause)).clauses = cs := by
  rw [clauses, List.filterMap_map]
  exact List.filterMap_some

end Part
end SearchQuery
