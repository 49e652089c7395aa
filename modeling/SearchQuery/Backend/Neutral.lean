import SearchQuery.Query.Basic

/-!
# The neutral form of a query

A mapping from the names of the roles to lists of leaves, without the roles that have no items.
-/

namespace SearchQuery

/-- What a body looks for, under the name of its kind. -/
def Body.leaf : Body → Value
  | .term t => .object [("match", .text t)]
  | .phrase p => .object [("match_phrase", .text p)]

def Item.leaf (item : Item) : Except QueryError Value := do
  let body ← item.body
  return body.leaf

namespace Query

/-- The entry of one role: none if it has no items. -/
def neutralEntry (q : Query) (role : Role) : Except QueryError (List (Text × Value)) := do
  if (q.bucket role).isEmpty then return []
  else
    let leaves ← (q.bucket role).mapM Item.leaf
    return [(role.name, .list leaves)]

/-- The neutral form. The first item that is no clause is the failure. -/
def neutral (q : Query) : Except QueryError Value := do
  let entries ← Role.all.mapM q.neutralEntry
  return .object entries.flatten

end Query
end SearchQuery
