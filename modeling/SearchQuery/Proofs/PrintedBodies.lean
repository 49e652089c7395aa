import SearchQuery.CommandLine.Runner
import SearchQuery.Proofs.Decoding
import SearchQuery.Proofs.JsonReading
import SearchQuery.Proofs.LogRecords

/-!
# Bodies as printed

Compiled bodies are payloads, whatever their texts and their field are. So what the command line
prints of a body is a JSON document of that body and of nothing else.
-/

namespace SearchQuery

namespace Json

theorem payload_empty : Payload (.object []) := .object List.nodup_nil (by simp)

theorem payload_singleton {v : Value} (h : Payload v) (key : Text) :
    Payload (.object [(key, v)]) := by
  refine .object (List.nodup_singleton _) ?_
  intro field hfield
  rw [List.mem_singleton.1 hfield]
  exact h

theorem payload_leaf (b : Body) : Payload b.leaf := by
  cases b with
  | term t => exact payload_singleton (.text t) _
  | phrase p => exact payload_singleton (.text p) _

theorem payload_fieldLeaf (field : Text) (b : Body) : Payload (BoolQuery.fieldLeaf field b) := by
  cases b with
  | term t => exact payload_singleton (payload_singleton (.text t) field) _
  | phrase p => exact payload_singleton (payload_singleton (.text p) field) _

theorem payload_of_mem_listed {key : Role → Text} {lists : Role → List Value}
    (h : ∀ role, ∀ v ∈ lists role, Payload v) :
    ∀ field ∈ listed key lists, Payload field.2 := by
  intro field hfield
  obtain ⟨role, -, hentry⟩ := List.mem_flatMap.1 hfield
  unfold BoolQuery.entry at hentry
  split at hentry
  · rw [List.mem_singleton.1 hentry]
    exact .list (h role)
  · cases hentry

theorem payload_neutral (cs : List Clause) :
    Payload (.object (listed Role.name fun role => (Query.bodies cs role).map Body.leaf)) := by
  refine .object (nodup_keys_listed Role.name_injective) (payload_of_mem_listed ?_)
  intro role v hv
  obtain ⟨b, -, rfl⟩ := List.mem_map.1 hv
  exact payload_leaf b

theorem payload_boolFields (field : Text) (cs : List Clause) :
    Payload (.object (Query.boolFields field cs)) := by
  refine .object (Query.nodup_keys_boolFields field cs) ?_
  intro entry hentry
  rcases List.mem_append.1 hentry with hentry | hentry
  · refine payload_of_mem_listed ?_ entry hentry
    intro role v hv
    obtain ⟨b, -, rfl⟩ := List.mem_map.1 hv
    exact payload_fieldLeaf field b
  · unfold BoolQuery.statedMinimum at hentry
    split at hentry
    · rw [List.mem_singleton.1 hentry]
      exact .int 1
    · cases hentry

theorem payload_compiled {backend : Backend} {cs : List Clause} {body : Value}
    (h : backend.compile (Query.grouped cs) = .ok body) : Payload body := by
  cases backend with
  | neutral =>
    have hneutral : (Query.grouped cs).neutral = .ok body := h
    rw [Query.neutral_grouped] at hneutral
    cases hneutral
    exact payload_neutral cs
  | elasticsearch field =>
    have hbool : BoolQuery.compile field (Query.grouped cs) = .ok body := h
    rw [Query.compile_grouped_eq] at hbool
    cases hbool
    split
    · exact payload_singleton payload_empty _
    · exact payload_singleton (payload_boolFields field cs) _

end Json

theorem Command.exists_compile {text : Text} (h : Grammar.Accepted text) (backend : Backend) :
    ∃ body, (Command.compile text backend).result = .ok body ∧ Json.Payload body := by
  obtain ⟨cs, hcs⟩ := Grammar.accepted_iff_clauses.1 h
  obtain ⟨body, hbody⟩ := Query.exists_compile_grouped cs backend
  refine ⟨body, ?_, Json.payload_compiled hbody⟩
  rw [compile_of_read (read_of_clauses hcs) hbody]

namespace CommandLine

open Json

/-- A computation that succeeds is printed unless the log cannot be set up. -/
theorem runLogged_ok {α : Type} {run : Log.Logged Text α} {a : α} (h : run.result = .ok a)
    (clock : Log.Clock) (settings : Settings) (files : FileTree) (action failure : Text)
    (print : α → Text) :
    (runLogged clock settings files action failure print run).1.map
        (fun c => (c.aborted, c.printed)) =
      (Log.Station.configure (clock 0) (setupFor settings.log action)
        (Log.Station.initial files)).1.map fun _ => (false, print a) := by
  obtain ⟨records, result⟩ := run
  cases h
  unfold runLogged
  cases Log.Station.configure (clock 0) (setupFor settings.log action)
    (Log.Station.initial files) with
  | mk result station => cases result <;> rfl

/-- The JSON text of a payload is a document of the payload and of nothing else, and a reader of the
grammar gets it back. What is printed of an accepted text denotes its compiled body. -/
theorem printed_reads_back :
    (∀ t v, read? t = some v ↔ Document t v) ∧
    (∀ v, Payload v → Denotes (render v) v ∧ read? (render v) = some v) ∧
    (∀ v w, Payload v → Payload w → render v = render w → v = w) ∧
    (∀ text (backend : Backend), Grammar.Accepted text →
      ∃ body, (Command.compile text backend).result = .ok body ∧
        Denotes (render body ++ ['\n']) body ∧
        ∀ clock settings files name, Settings.createBackend settings name = .ok backend →
          (runCompile clock settings files text name).1.map (fun c => (c.aborted, c.printed)) =
            (Log.Station.configure (clock 0) (setupFor settings.log compileAction)
              (Log.Station.initial files)).1.map fun _ => (false, render body ++ ['\n'])) := by
  refine ⟨fun t v => read?_eq_some_iff, ?_, fun v w => render_injective, ?_⟩
  · intro v h
    have hdenotes := (document_render h).denotes
    exact ⟨hdenotes, denotes_iff_read?.1 hdenotes⟩
  · intro text backend h
    obtain ⟨body, hbody, hpayload⟩ := Command.exists_compile h backend
    have hblank : ∀ c ∈ ['\n'], isSpace c = true := by simp [isSpace]
    refine ⟨body, hbody, ((document_render hpayload).append_blanks hblank).denotes, ?_⟩
    intro clock settings files name hbackend
    unfold runCompile
    rw [hbackend]
    apply runLogged_ok
    change (Command.compile text backend).result.mapError QueryError.message = .ok body
    rw [hbody]
    rfl

/-- A payload with every kind of value, and with characters of every kind of escape. -/
def mixedPayload : Value :=
  .object [("", .list [.null, .bool true, .int (-120), .list [], .object []]),
    ("a\"b\\/\x00\x1f\x7f\u2028", .text "\n\x08\u0041\\u0041")]

/-- A field and a query text made of the syntax of JSON. -/
def syntaxField : Text := "a\": \\\n\x7b"

def syntaxText : Text := "\"[1, \x7b\\u0041: null\x7d]\" -\\n +],"

def syntaxSettings : Settings := ⟨⟨"INFO", false, "log"⟩, ⟨"elasticsearch", syntaxField⟩⟩

theorem payload_mixed : Payload mixedPayload := by
  refine .object (by decide) ?_
  simp only [List.mem_cons, List.not_mem_nil, or_false, forall_eq_or_imp, forall_eq]
  refine ⟨.list ?_, .text _⟩
  simp only [List.mem_cons, List.not_mem_nil, or_false, forall_eq_or_imp, forall_eq]
  exact ⟨.null, .bool true, .int (-120), .list (by simp), payload_empty⟩

theorem printed_reads_back_syntax :
    (Denotes (render mixedPayload) mixedPayload ∧ read? (render mixedPayload) = some mixedPayload) ∧
    render (.int 1) ≠ render (.text "1") ∧
    ∃ body, (Command.compile syntaxText (.elasticsearch syntaxField)).result = .ok body ∧
      Denotes (render body ++ ['\n']) body ∧
      (runCompile (fun _ => ⟨[], []⟩) syntaxSettings .empty syntaxText none).1.map
        (fun c => (c.aborted, c.printed)) = .ok (false, render body ++ ['\n']) := by
  obtain ⟨-, hrender, hinjective, hcommand⟩ := printed_reads_back
  refine ⟨hrender _ payload_mixed, ?_, ?_⟩
  · intro h
    cases hinjective _ _ (.int 1) (.text "1") h
  · have haccepted : Grammar.Accepted syntaxText := ⟨_, rfl⟩
    have hbackend : Settings.createBackend syntaxSettings none = .ok (.elasticsearch syntaxField) :=
      rfl
    obtain ⟨body, hbody, hdenotes, hprinted⟩ := hcommand _ _ haccepted
    exact ⟨body, hbody, hdenotes, hprinted _ _ _ _ hbackend⟩

end CommandLine
end SearchQuery
