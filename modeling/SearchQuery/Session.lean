import SearchQuery.Json.Printer
import SearchQuery.Query.Parse
import SearchQuery.Query.Report
import SearchQuery.Settings.Source

/-!
# Sessions

A session holds a settings mapping that grows by overlays, the settings and the backend that were
last made from it, and a query. Each step answers, or fails and leaves the session as it was.
-/

namespace SearchQuery

structure Session where
  root : Entries
  settings : Option Settings
  backend : Option Backend
  query : Query

namespace Session

def initial : Session := ⟨[], none, none, .empty⟩

inductive Step where
  | yaml (text : Text)
  | overlay (entries : Entries)
  | load
  | backend (name : Option Text)
  | parse (text : Text)
  | append (text : Text)
  | bucket (role : Value)
  | render
  | compile

inductive Reply where
  | root (entries : Entries)
  | settings (settings : Settings)
  | backend (backend : Backend)
  | query (query : Query)
  | text (text : Text)
  | json (json : Option Text)

inductive Failure where
  | load (error : LoadError)
  | backend (error : UnsupportedBackend)
  | query (error : QueryError)
  | notARole (value : Value)

/-- The backend with a name under the settings; without settings, a missing name is the usual
one. -/
def chooseBackend (s : Session) (name : Option Text) : Except UnsupportedBackend Backend :=
  match s.settings with
  | some settings => settings.createBackend name
  | none =>
    Backend.build ((name.filter fun n => !n.isEmpty).getD BackendSettings.defaultName) none

/-- The query with the clauses of a text added to its items. -/
def appended (s : Session) (text : Text) : Except QueryError Query := do
  let clauses ← Grammar.clauses text
  Query.aggregate (s.query.items ++ clauses.map Item.clause)

/-- The query as JSON, compiled by the backend if there is one. -/
def compiled (s : Session) : Except QueryError (Option Text) :=
  match s.backend with
  | none => return none
  | some backend => do
    let body ← backend.compile s.query
    return some (Json.render body)

/-- The session with more laid over its mapping. -/
def overlaid (s : Session) (upper : Entries) : Reply × Session :=
  let root := Entries.overlay s.root upper
  (.root root, { s with root })

def withQuery (s : Session) (query : Query) : Reply × Session := (.query query, { s with query })

/-- One step: the answer and the session afterwards. -/
def step (s : Session) : Step → Except Failure (Reply × Session)
  | .yaml text => do
    let upper ← (Settings.readRoot text).mapError .load
    return s.overlaid upper
  | .overlay upper => return s.overlaid upper
  | .load => do
    let settings ← (Settings.ofRoot s.root).mapError .load
    return (.settings settings, { s with settings := some settings })
  | .backend name => do
    let backend ← (s.chooseBackend name).mapError .backend
    return (.backend backend, { s with backend := some backend })
  | .parse text => do
    let query ← (Query.parse text).mapError .query
    return s.withQuery query
  | .append text => do
    let query ← (s.appended text).mapError .query
    return s.withQuery query
  | .bucket value => do
    let role ← ((Role.ofValue? value).elim (.error (.notARole value)) .ok : Except Failure Role)
    let query ← (Query.aggregate (s.query.bucket role)).mapError .query
    return s.withQuery query
  | .render => do
    let text ← s.query.report.mapError .query
    return (.text text, s)
  | .compile => do
    let json ← s.compiled.mapError .query
    return (.json json, s)

/-- All steps in order, with the answer or the failure of each. -/
def run (s : Session) : List Step → List (Except Failure Reply)
  | [] => []
  | next :: rest =>
    match s.step next with
    | .ok (reply, after) => .ok reply :: run after rest
    | .error failure => .error failure :: run s rest

end Session
end SearchQuery
