import SearchQuery.Proofs.LogRecords
import SearchQuery.Proofs.Partition

/-!
# Outcomes of reading a text

A text is rejected, or it becomes a query that has every form a query can have. The other failures
are for trees and items that were put together by hand: the tree of a text has nothing in it that a
later stage refuses, and neither have its clauses nor the query they make.
-/

namespace SearchQuery

open Grammar Log

namespace Query

/-- Whatever is asked of the query succeeds. -/
structure Usable (q : Query) : Prop where
  neutral : ∃ form, q.neutral = .ok form
  boolQuery : ∀ field, ∃ body, BoolQuery.compile field q = .ok body
  report : ∃ report, q.report = .ok report

/-- Every clause is in the bucket of its role, and nothing else is in a bucket. -/
structure Holds (q : Query) (cs : List Clause) : Prop where
  placed : ∀ c ∈ cs, Item.clause c ∈ q.bucket c.role
  only : ∀ role, ∀ item ∈ q.bucket role, ∃ c ∈ cs, item = .clause c ∧ c.role = role
  size : cs.length = q.optional.length + q.required.length + q.excluded.length

theorem usable_grouped (cs : List Clause) : (grouped cs).Usable where
  neutral := exists_compile_grouped cs .neutral
  boolQuery field := exists_compile_grouped cs (.elasticsearch field)
  report := ⟨_, Report.report_grouped cs⟩

theorem holds_grouped (cs : List Clause) : (grouped cs).Holds cs where
  placed c hc := by simpa using hc
  only role item hitem := by
    rw [bucket_grouped] at hitem
    obtain ⟨c, hc, rfl⟩ := List.mem_map.1 hitem
    rw [List.mem_filter, decide_eq_true_eq] at hc
    exact ⟨c, hc.1, rfl, hc.2⟩
  size := by
    have hsize := size_aggregate (ofClauses_eq cs)
    rw [List.length_map] at hsize
    exact hsize.symm

theorem parse_eq_error {text : Text} {e : QueryError} :
    parse text = .error e ↔ ∃ r, Grammar.parse text = .error r ∧ e = .rejected r := by
  cases h : Grammar.parse text with
  | error r =>
    rw [parse, clauses, h]
    change Except.error (QueryError.rejected r) = Except.error e ↔ _
    simp [eq_comm]
  | ok tree =>
    obtain ⟨cs, hcs⟩ := exists_clauses h
    simp [query_parse_of_clauses hcs]

end Query

namespace Command

theorem result_read (text : Text) : (read text).result = Query.parse text := by
  cases h : Grammar.parse text with
  | error r =>
    rw [read_of_rejected h]
    exact (Query.parse_eq_error.2 ⟨r, h, rfl⟩).symm
  | ok tree =>
    obtain ⟨cs, hcs⟩ := exists_clauses h
    rw [read_of_clauses hcs, query_parse_of_clauses hcs]

/-- Reading fails only at the grammar. On the tree of a text no stage fails, what comes out is
usable in every way, and the record of it counts each clause in one bucket. -/
theorem read_outcomes (text : Text) :
    (read text).result = Query.parse text ∧
    (∀ e, Query.parse text = .error e ↔ ∃ r, Grammar.parse text = .error r ∧ e = .rejected r) ∧
    ∀ tree, Grammar.parse text = .ok tree → ∃ cs q,
      Grammar.transform tree = .ok (.list (cs.map Part.clause)) ∧
      Query.aggregate (cs.map Item.clause) = .ok q ∧
      Query.parse text = .ok q ∧ q.Usable ∧ q.Holds cs ∧
      (read text).records = [⟨Level.debug, "Parsed " ++ Text.ofNat cs.length ++
        " clauses: optional=" ++ Text.ofNat q.optional.length ++
        " required=" ++ Text.ofNat q.required.length ++
        " excluded=" ++ Text.ofNat q.excluded.length⟩] := by
  refine ⟨result_read text, fun e => Query.parse_eq_error, ?_⟩
  intro tree h
  obtain ⟨ss, hss, rfl⟩ := parse_eq_ok.1 h
  have hcs : clauses text = .ok (ss.map Segment.clause) := clauses_of_spells hss
  refine ⟨ss.map Segment.clause, Query.grouped (ss.map Segment.clause), transform_treeOf ss,
    Query.ofClauses_eq _, query_parse_of_clauses hcs, Query.usable_grouped _,
    Query.holds_grouped _, ?_⟩
  rw [read_of_clauses hcs]
  rfl

theorem read_outcomes_roles :
    (∃ q, Query.parse "+a -\"b c\" d e" = .ok q ∧ q.Usable ∧
      (read "+a -\"b c\" d e").records =
        [⟨Level.debug, "Parsed 4 clauses: optional=2 required=1 excluded=1"⟩]) ∧
    ∃ e, Query.parse "+" = .error e ∧ ∃ r, Grammar.parse "+" = .error r ∧ e = .rejected r := by
  have haccepted := read_outcomes "+a -\"b c\" d e"
  have hrejected := read_outcomes "+"
  refine ⟨?_, ?_⟩
  · cases h : Grammar.parse "+a -\"b c\" d e" with
    | error r =>
      have hq : (Query.parse "+a -\"b c\" d e").toOption.isSome = true := by decide +kernel
      rw [(haccepted.2.1 _).2 ⟨r, h, rfl⟩] at hq
      cases hq
    | ok tree =>
      obtain ⟨cs, q, -, -, hq, husable, -, -⟩ := haccepted.2.2 tree h
      exact ⟨q, hq, husable, by decide +kernel⟩
  · cases h : Query.parse "+" with
    | error e => exact ⟨e, rfl, (hrejected.2.1 e).1 h⟩
    | ok q =>
      have hnone : (Query.parse "+").toOption.isSome = false := by decide +kernel
      rw [h] at hnone
      cases hnone

end Command
end SearchQuery
