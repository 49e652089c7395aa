import SearchQuery.Grammar.Part
import SearchQuery.Grammar.Rejection
import SearchQuery.Value.Literal

/-!
# Errors of queries

A text that is no query is the only error that users meet. The others report trees and items
that were put together by hand.
-/

namespace SearchQuery

inductive QueryError where
  | rejected (rejection : Rejection)
  | unknownOperator (symbol : Value)
  | unknownClause (value : Value)
  | unknownBody (body : Part)
  | emptyTerm
  | misshapenClause
  | bodyWithoutLabel
  | notAKey

namespace QueryError

def message : QueryError → Text
  | .rejected rejection => rejection.message
  | .unknownOperator symbol => "Unknown operator: " ++ symbol.literal
  | .unknownClause value =>
    "Unknown clause type: " ++ value.kindName ++ ": " ++ value.literal
  | .unknownBody body => "Unknown clause type: Tree: " ++ body.literal
  | .emptyTerm => "a term has at least one token"
  | .misshapenClause => "a clause has an operator place and a body"
  | .bodyWithoutLabel => "the body of a clause has a label"
  | .notAKey => "a list or a mapping is no key"

end QueryError
end SearchQuery
