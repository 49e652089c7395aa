import SearchQuery.Query.Basic

/-!
# Reports

A query as lines for people: for every role with items a heading with their number, then one
numbered line for each item.
-/

namespace SearchQuery

def Body.line : Body → Text
  | .term t => "term   " ++ t
  | .phrase p => "phrase \"" ++ p ++ "\""

namespace Report

def emptyLine : Text := "(empty query)"

def heading (role : Role) (count : Nat) : Text :=
  role.name ++ " (" ++ Text.ofNat count ++ "):"

def numbered (number : Nat) (body : Body) : Text :=
  "  " ++ Text.ofNat number ++ ". " ++ body.line

/-- The lines of items that are numbered from `number` on. -/
def itemLines (number : Nat) : List Item → Except QueryError (List Text)
  | [] => return []
  | item :: rest => do
    let body ← item.body
    let lines ← itemLines (number + 1) rest
    return numbered number body :: lines

/-- The heading of a role and the lines of its items; nothing if it has none. -/
def sectionLines (q : Query) (role : Role) : Except QueryError (List Text) := do
  if (q.bucket role).isEmpty then return []
  else
    let lines ← itemLines 1 (q.bucket role)
    return heading role (q.bucket role).length :: lines

def lines (q : Query) : Except QueryError (List Text) := do
  if q.isEmpty then return [emptyLine]
  else
    let sections ← Role.all.mapM (sectionLines q)
    return sections.flatten

end Report

def Query.report (q : Query) : Except QueryError Text := do
  let lines ← Report.lines q
  return Text.unlines lines

end SearchQuery
