import SearchQuery.Query.Basic

/-!
# Bool queries

The body of a bool query on one field of a document. Optional clauses are only scored when a
required clause stands beside them; without one, at least one of them has to match. An empty
query matches every document.
-/

namespace SearchQuery
namespace BoolQuery

/-- The occurrences of a bool query with the roles they stand for, in the order of writing. -/
def occurrences : List (Text × Role) :=
  [("should", .optional), ("must", .required), ("must_not", .excluded)]

def leaf (field : Text) : Item → Except QueryError Value
  | .clause ⟨_, .term t⟩ | .marked _ (.term t) =>
    .ok (.object [("match", .object [(field, .text t)])])
  | .clause ⟨_, .phrase p⟩ | .marked _ (.phrase p) =>
    .ok (.object [("match_phrase", .object [(field, .text p)])])
  | .foreign value => .error (.unknownClause value)

/-- The lists of leaves under their occurrences, the empty ones left out. -/
def occurrenceFields (field : Text) (q : Query) :
    List (Text × Role) → Except QueryError (List (Text × Value))
  | [] => .ok []
  | (key, role) :: rest =>
    match q.bucket role with
    | [] => occurrenceFields field q rest
    | items => do
      let leaves ← items.mapM (leaf field)
      let fields ← occurrenceFields field q rest
      return (key, .list leaves) :: fields

/-- How many optional clauses have to match, where that is not left to the default. -/
def minimum (q : Query) : List (Text × Value) :=
  if q.required.isEmpty && !q.optional.isEmpty then [("minimum_should_match", .int 1)] else []

def compile (field : Text) (q : Query) : Except QueryError Value := do
  if q.isEmpty then return .object [("match_all", .object [])]
  else
    let fields ← occurrenceFields field q occurrences
    return .object [("bool", .object (fields ++ minimum q))]

end BoolQuery
end SearchQuery
