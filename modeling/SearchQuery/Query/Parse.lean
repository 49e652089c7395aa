import SearchQuery.Grammar.Reading
import SearchQuery.Query.Basic

/-!
# Queries from texts
-/

namespace SearchQuery
namespace Query

def ofClauses (clauses : List Clause) : Except QueryError Query :=
  aggregate (clauses.map Item.clause)

def parse (text : Text) : Except QueryError Query := do
  let clauses ← Grammar.clauses text
  ofClauses clauses

end Query
end SearchQuery
