import SearchQuery.Backend.BoolQuery
import SearchQuery.Proofs.Grouping

/-!
# What a bool query accepts

A bool query is evaluated on a document that answers which leaves it matches. The compiled query
accepts a document exactly if the clauses do: required clauses match, excluded clauses do not, and
without a required clause some optional clause matches, if there is one.
-/

namespace SearchQuery

theorem Scalar.sameKey_text_iff {a b : Text} : Scalar.SameKey (.text a) (.text b) ↔ a = b := by
  simp [Scalar.SameKey, Scalar.canonical]

namespace Entries

theorem get?_text (key : Text) (fields : List (Text × Value)) :
    get? (.text key) (fields.map fun (k, v) => (.text k, v)) = fields.lookup key := by
  induction fields with
  | nil => rfl
  | cons field fields ih =>
    obtain ⟨k, v⟩ := field
    rw [List.map_cons, get?, List.lookup_cons, ih]
    by_cases h : k = key
    · rw [if_pos (Scalar.sameKey_text_iff.2 h), beq_iff_eq.2 h.symm]
    · rw [if_neg fun hk => h (Scalar.sameKey_text_iff.1 hk), beq_eq_false_iff_ne.2 (Ne.symm h)]

end Entries

namespace BoolQuery

/-- A document, as far as a query can tell: which terms and which phrases a field matches. -/
structure Document where
  hasTerm (field term : Text) : Bool
  hasPhrase (field phrase : Text) : Bool

/-- The values under an occurrence; none if the occurrence is left out. -/
def leavesUnder (key : Text) (fields : Entries) : List Value :=
  match fields.get? (.text key) with
  | some (.list leaves) => leaves
  | _ => []

/-- How many values under `should` have to match. Without a number it is one if there is nothing
else that has to match, and zero otherwise. -/
def minimumShould (fields : Entries) : Int :=
  match fields.get? (.text "minimum_should_match") with
  | some (.scalar (.int n)) => n
  | _ =>
    if (fields.get? (.text "must")).isSome || (fields.get? (.text "should")).isNone then 0 else 1

namespace Document

def matchesLeaf (d : Document) : Value → Bool
  | .map [(.text kind, .map [(.text field, .scalar (.text t))])] =>
    if kind = "match" then d.hasTerm field t
    else if kind = "match_phrase" then d.hasPhrase field t
    else false
  | _ => false

/-- Whether a query body accepts the document. -/
def accepts (d : Document) : Value → Bool
  | .map [(.text kind, .map fields)] =>
    if kind = "match_all" then true
    else if kind = "bool" then
      (leavesUnder "must" fields).all d.matchesLeaf &&
        !(leavesUnder "must_not" fields).any d.matchesLeaf &&
        minimumShould fields ≤ (leavesUnder "should" fields).countP d.matchesLeaf
    else false
  | _ => false

def matchesBody (d : Document) (field : Text) : Body → Bool
  | .term t => d.hasTerm field t
  | .phrase p => d.hasPhrase field p

end Document

def fieldLeaf (field : Text) : Body → Value
  | .term t => .object [("match", .object [(field, .text t)])]
  | .phrase p => .object [("match_phrase", .object [(field, .text p)])]

theorem matchesLeaf_fieldLeaf (d : Document) (field : Text) (body : Body) :
    d.matchesLeaf (fieldLeaf field body) = d.matchesBody field body := by
  cases body <;> rfl

theorem leaf_clause (field : Text) (c : Clause) :
    leaf field (.clause c) = .ok (fieldLeaf field c.body) := by
  obtain ⟨role, body⟩ := c
  cases body <;> rfl

def leavesOf (field : Text) (cs : List Clause) : List Value :=
  cs.map fun c => fieldLeaf field c.body

theorem isEmpty_leavesOf (field : Text) (cs : List Clause) :
    (leavesOf field cs).isEmpty = cs.isEmpty := List.isEmpty_map

theorem mapM_leaf (field : Text) (cs : List Clause) :
    (cs.map Item.clause).mapM (leaf field) = .ok (leavesOf field cs) := by
  induction cs with
  | nil => rfl
  | cons c cs ih =>
    rw [List.map_cons, List.mapM_cons, leaf_clause, ih]
    rfl

/-- The entry of an occurrence: none without leaves. -/
def entry (key : Text) (leaves : List Value) : List (Text × Value) :=
  if !leaves.isEmpty then [(key, .list leaves)] else []

theorem lookup_conditional (key k : Text) (v : Value) (b : Bool) :
    (if b then [(k, v)] else []).lookup key = if key = k ∧ b then some v else none := by
  cases b with
  | false => simp
  | true =>
    by_cases h : key = k
    · simp [h]
    · rw [if_pos rfl, List.lookup_cons, beq_eq_false_iff_ne.2 h, if_neg fun hk => h hk.1]
      rfl

/-- The number that a bool query states if optional leaves stand alone. -/
def statedMinimum (should must : List Value) : List (Text × Value) :=
  if must.isEmpty && !should.isEmpty then [("minimum_should_match", .int 1)] else []

/-- The fields of a bool query whose occurrences hold the given leaves. -/
def boolFields (should must mustNot : List Value) : List (Text × Value) :=
  entry "should" should ++ (entry "must" must ++ entry "must_not" mustNot) ++
    statedMinimum should must

section

variable (should must mustNot : List Value)

/-- The entries that a bool query is read from. -/
def boolEntries : Entries :=
  (boolFields should must mustNot).map fun (key, value) => (.text key, value)

theorem get?_boolEntries (key : Text) :
    (boolEntries should must mustNot).get? (.text key) =
      ((if key = "should" ∧ !should.isEmpty then some (.list should) else none).or
        ((if key = "must" ∧ !must.isEmpty then some (.list must) else none).or
          (if key = "must_not" ∧ !mustNot.isEmpty then some (.list mustNot) else none))).or
        (if key = "minimum_should_match" ∧ must.isEmpty && !should.isEmpty then some (.int 1)
          else none) := by
  unfold boolEntries boolFields entry statedMinimum
  simp only [Entries.get?_text, List.lookup_append, lookup_conditional]

theorem leavesUnder_should : leavesUnder "should" (boolEntries should must mustNot) = should := by
  unfold leavesUnder
  rw [get?_boolEntries]
  cases should <;> simp

theorem leavesUnder_must : leavesUnder "must" (boolEntries should must mustNot) = must := by
  unfold leavesUnder
  rw [get?_boolEntries]
  cases must <;> simp

theorem leavesUnder_mustNot :
    leavesUnder "must_not" (boolEntries should must mustNot) = mustNot := by
  unfold leavesUnder
  rw [get?_boolEntries]
  cases mustNot <;> simp

theorem minimumShould_eq :
    minimumShould (boolEntries should must mustNot) =
      if must = [] ∧ should ≠ [] then 1 else 0 := by
  unfold minimumShould
  simp only [get?_boolEntries]
  cases must <;> cases should <;> simp

theorem accepts_bool (d : Document) (fields : Entries) :
    d.accepts (.map [(.text "bool", .map fields)]) =
      ((leavesUnder "must" fields).all d.matchesLeaf &&
        !(leavesUnder "must_not" fields).any d.matchesLeaf &&
        minimumShould fields ≤ (leavesUnder "should" fields).countP d.matchesLeaf) := rfl

/-- When a bool query of the given leaves accepts a document. -/
theorem accepts_bool_iff (d : Document) :
    d.accepts (.object [("bool", .object (boolFields should must mustNot))]) = true ↔
      (∀ leaf ∈ must, d.matchesLeaf leaf = true) ∧
      (∀ leaf ∈ mustNot, d.matchesLeaf leaf = false) ∧
      (must = [] → should ≠ [] → ∃ leaf ∈ should, d.matchesLeaf leaf = true) := by
  have hcount : (minimumShould (boolEntries should must mustNot) ≤
      (should.countP d.matchesLeaf : Int)) ↔
        (must = [] → should ≠ [] → ∃ leaf ∈ should, d.matchesLeaf leaf = true) := by
    rw [minimumShould_eq, ← List.countP_pos_iff]
    split
    case isTrue h =>
      have hone (n : Nat) : (1 : Int) ≤ n ↔ 0 < n := by omega
      simp [h, hone]
    case isFalse h =>
      have hzero (n : Nat) : (0 : Int) ≤ n := by omega
      simp only [hzero, true_iff]
      exact fun hm hs => absurd ⟨hm, hs⟩ h
  change d.accepts (.map [(.text "bool", .map (boolEntries should must mustNot))]) = true ↔ _
  rw [accepts_bool, leavesUnder_should, leavesUnder_must, leavesUnder_mustNot]
  simp only [Bool.and_eq_true, List.all_eq_true, Bool.not_eq_true', List.any_eq_false,
    Bool.not_eq_true, decide_eq_true_eq, hcount, and_assoc]

end

theorem occurrenceFields_grouped (field : Text) (cs : List Clause)
    (occurrences : List (Text × Role)) :
    occurrenceFields field (Query.grouped cs) occurrences =
      .ok (occurrences.flatMap fun o =>
        entry o.1 (leavesOf field (cs.filter fun c => c.role = o.2))) := by
  induction occurrences with
  | nil => rfl
  | cons o rest ih =>
    obtain ⟨key, role⟩ := o
    have hm := mapM_leaf field (cs.filter fun c => c.role = role)
    rw [occurrenceFields, Query.bucket_grouped, List.flatMap_cons, ih]
    revert hm
    generalize (cs.filter fun c => c.role = role) = selected
    intro hm
    cases selected with
    | nil => rfl
    | cons c selected =>
      change (do
        let leaves ← ((c :: selected).map Item.clause).mapM (leaf field)
        let fields ← Except.ok _
        return (key, Value.list leaves) :: fields) = _
      rw [hm]
      rfl

theorem minimum_grouped (field : Text) (cs : List Clause) :
    minimum (Query.grouped cs) =
      statedMinimum (leavesOf field (cs.filter fun c => c.role = .optional))
        (leavesOf field (cs.filter fun c => c.role = .required)) := by
  have hmust : (Query.grouped cs).required.isEmpty =
      (cs.filter fun c => c.role = .required).isEmpty := List.isEmpty_map
  have hshould : (Query.grouped cs).optional.isEmpty =
      (cs.filter fun c => c.role = .optional).isEmpty := List.isEmpty_map
  rw [minimum, statedMinimum, isEmpty_leavesOf, isEmpty_leavesOf, hmust, hshould]

theorem compile_grouped (field : Text) (cs : List Clause) :
    compile field (Query.grouped cs) = .ok (if (Query.grouped cs).isEmpty
      then .object [("match_all", .object [])]
      else .object [("bool", .object (boolFields
        (leavesOf field (cs.filter fun c => c.role = .optional))
        (leavesOf field (cs.filter fun c => c.role = .required))
        (leavesOf field (cs.filter fun c => c.role = .excluded))))]) := by
  unfold compile
  rw [occurrenceFields_grouped, minimum_grouped field]
  split
  · rfl
  · rw [boolFields]
    simp only [occurrences, List.flatMap_cons, List.flatMap_nil, List.append_nil]
    rfl

theorem mem_leavesOf {leaf : Value} {field : Text} {cs : List Clause} {role : Role} :
    leaf ∈ leavesOf field (cs.filter fun c => c.role = role) ↔
      ∃ c ∈ cs, c.role = role ∧ fieldLeaf field c.body = leaf := by
  simp [leavesOf, and_assoc]

theorem forall_mem_leavesOf {p : Value → Prop} {field : Text} {cs : List Clause} {role : Role} :
    (∀ leaf ∈ leavesOf field (cs.filter fun c => c.role = role), p leaf) ↔
      ∀ c ∈ cs, c.role = role → p (fieldLeaf field c.body) := by
  simp only [mem_leavesOf]
  constructor
  · intro h c hc hr
    exact h _ ⟨c, hc, hr, rfl⟩
  · rintro h leaf ⟨c, hc, hr, rfl⟩
    exact h c hc hr

theorem exists_mem_leavesOf {p : Value → Prop} {field : Text} {cs : List Clause} {role : Role} :
    (∃ leaf ∈ leavesOf field (cs.filter fun c => c.role = role), p leaf) ↔
      ∃ c ∈ cs, c.role = role ∧ p (fieldLeaf field c.body) := by
  simp only [mem_leavesOf]
  constructor
  · rintro ⟨leaf, ⟨c, hc, hr, rfl⟩, hp⟩
    exact ⟨c, hc, hr, hp⟩
  · rintro ⟨c, hc, hr, hp⟩
    exact ⟨_, ⟨c, hc, hr, rfl⟩, hp⟩

theorem leavesOf_eq_nil_iff {field : Text} {cs : List Clause} {role : Role} :
    leavesOf field (cs.filter fun c => c.role = role) = [] ↔ ∀ c ∈ cs, c.role ≠ role := by
  simp [leavesOf]

theorem leavesOf_ne_nil_iff {field : Text} {cs : List Clause} {role : Role} :
    leavesOf field (cs.filter fun c => c.role = role) ≠ [] ↔ ∃ c ∈ cs, c.role = role := by
  simp [leavesOf]

/-- Compiling keeps the meaning of clauses, however the roles are mixed. -/
theorem accepts_compiled (d : Document) (field : Text) (cs : List Clause) :
    ∃ q body, Query.ofClauses cs = .ok q ∧ compile field q = .ok body ∧
      (d.accepts body = true ↔
        (∀ c ∈ cs, c.role = .required → d.matchesBody field c.body = true) ∧
        (∀ c ∈ cs, c.role = .excluded → d.matchesBody field c.body = false) ∧
        ((∀ c ∈ cs, c.role ≠ .required) → (∃ c ∈ cs, c.role = .optional) →
          ∃ c ∈ cs, c.role = .optional ∧ d.matchesBody field c.body = true)) := by
  refine ⟨_, _, Query.ofClauses_eq cs, compile_grouped field cs, ?_⟩
  split
  case isTrue h =>
    obtain rfl := Query.isEmpty_grouped.1 h
    simp
    rfl
  case isFalse h =>
    rw [accepts_bool_iff, forall_mem_leavesOf, forall_mem_leavesOf, exists_mem_leavesOf,
      leavesOf_eq_nil_iff, leavesOf_ne_nil_iff]
    simp only [matchesLeaf_fieldLeaf]

end BoolQuery
end SearchQuery
