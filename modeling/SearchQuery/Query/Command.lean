import SearchQuery.Backend.Registry
import SearchQuery.Log.Logged
import SearchQuery.Query.Parse
import SearchQuery.Query.Report
import SearchQuery.Text.LineBreak

/-!
# Commands on a query text

Reading a text and reporting it, and reading a text and compiling it, with the records that are
written on the way.
-/

namespace SearchQuery
namespace Command

open Log Logged

/-- How many clauses were read and how they fall into roles. -/
def countMessage (clauses : List Clause) (q : Query) : Text :=
  "Parsed " ++ Text.ofNat clauses.length ++ " clauses: optional=" ++
    Text.ofNat q.optional.length ++ " required=" ++ Text.ofNat q.required.length ++
    " excluded=" ++ Text.ofNat q.excluded.length

def rejectionMessage (text : Text) (r : Rejection) : Text :=
  "Rejected query " ++ text.quoted ++ ": " ++ r.reason.description

def read (text : Text) : Logged QueryError Query :=
  match Grammar.parse text with
  | .error rejection => do
    emit Level.debug (rejectionMessage text rejection)
    ofExcept (.error (.rejected rejection))
  | .ok tree => do
    let part ← ofExcept (Grammar.transform tree)
    let clauses := part.clauses
    let query ← ofExcept (Query.ofClauses clauses)
    emit Level.debug (countMessage clauses query)
    return query

/-- Reads a text and reports the query line by line. -/
def parse (text : Text) : Logged QueryError Query := do
  let query ← read text
  emit Level.info ("Parsed " ++ Text.ofNat query.size ++ " clauses from " ++ text.quoted)
  let report ← ofExcept query.report
  emitAll (report.lines.map fun line => ⟨Level.info, line⟩)
  return query

def compile (text : Text) (backend : Backend) : Logged QueryError Value := do
  let query ← read text
  let body ← ofExcept (backend.compile query)
  emit Level.debug
    ("Compiled " ++ Text.ofNat query.size ++ " clauses with backend=" ++ backend.name)
  return body

end Command
end SearchQuery
