import SearchQuery.Query.Parse

/-!
# Grouping clauses by role

Aggregation is a stable partition: the bucket of a role holds the items of that role, in order.
Clauses can always be aggregated, and aggregating the items of a query again gives the same query.
-/

namespace SearchQuery

def Item.role? (item : Item) : Option Role := item.role.toOption

@[simp] theorem Item.role?_clause (c : Clause) : (Item.clause c).role? = some c.role := rfl

namespace Query

theorem ext_bucket {p q : Query} (h : ∀ role, p.bucket role = q.bucket role) : p = q := by
  obtain ⟨o, r, e⟩ := p
  obtain ⟨o', r', e'⟩ := q
  obtain rfl : o = o' := h .optional
  obtain rfl : r = r' := h .required
  obtain rfl : e = e' := h .excluded
  rfl

theorem place_eq_ok {q q' : Query} {item : Item} (h : q.place item = .ok q') :
    ∃ role, item.role = .ok role ∧ q' = q.insert item role := by
  unfold place at h
  cases hr : item.role with
  | error e =>
    rw [hr] at h
    cases h
  | ok role =>
    rw [hr] at h
    cases h
    exact ⟨role, rfl, rfl⟩

theorem bucket_foldlM_place {items : List Item} {q q' : Query}
    (h : items.foldlM place q = .ok q') (role : Role) :
    q'.bucket role = q.bucket role ++ items.filter fun item => item.role? = some role := by
  induction items generalizing q with
  | nil =>
    cases h
    simp
  | cons item items ih =>
    rw [List.foldlM_cons] at h
    cases hp : q.place item with
    | error e =>
      rw [hp] at h
      cases h
    | ok u =>
      rw [hp] at h
      obtain ⟨r, hr, rfl⟩ := place_eq_ok hp
      have hrole : item.role? = some r := by simp [Item.role?, hr, Except.toOption]
      rw [ih h, bucket_insert, List.append_assoc, List.filter_cons, hrole]
      by_cases he : role = r
      · simp [he]
      · simp [he, Ne.symm he]

/-- The bucket of a role holds the items of that role, in order. -/
theorem bucket_aggregate {items : List Item} {q : Query} (h : aggregate items = .ok q)
    (role : Role) : q.bucket role = items.filter fun item => item.role? = some role := by
  simpa using bucket_foldlM_place h role

theorem exists_foldlM_place {items : List Item} (q : Query)
    (h : ∀ item ∈ items, ∃ role, item.role = .ok role) :
    ∃ q', items.foldlM place q = .ok q' := by
  induction items generalizing q with
  | nil => exact ⟨q, rfl⟩
  | cons item items ih =>
    obtain ⟨role, hr⟩ := h item (by simp)
    obtain ⟨q', hq⟩ := ih (q.insert item role) fun i hi => h i (by simp [hi])
    refine ⟨q', ?_⟩
    rw [List.foldlM_cons, place, hr]
    exact hq

/-- The query whose buckets hold the clauses of each role. -/
def grouped (cs : List Clause) : Query where
  optional := (cs.filter fun c => c.role = .optional).map .clause
  required := (cs.filter fun c => c.role = .required).map .clause
  excluded := (cs.filter fun c => c.role = .excluded).map .clause

@[simp] theorem bucket_grouped (cs : List Clause) (role : Role) :
    (grouped cs).bucket role = (cs.filter fun c => c.role = role).map .clause := by
  cases role <;> rfl

/-- The buckets of clauses that come one after the other. -/
theorem bucket_grouped_append (cs ds : List Clause) (role : Role) :
    (grouped (cs ++ ds)).bucket role = (grouped cs).bucket role ++ (grouped ds).bucket role := by
  rw [bucket_grouped, bucket_grouped, bucket_grouped, List.filter_append, List.map_append]

theorem ofClauses_eq (cs : List Clause) : ofClauses cs = .ok (grouped cs) := by
  have hroles : ∀ item ∈ cs.map Item.clause, ∃ role, item.role = .ok role := by
    intro item hi
    obtain ⟨c, -, rfl⟩ := List.mem_map.1 hi
    exact ⟨c.role, rfl⟩
  obtain ⟨q, hq⟩ := exists_foldlM_place empty hroles
  have hgrouped : q = grouped cs := by
    apply ext_bucket
    intro role
    rw [bucket_aggregate hq, bucket_grouped, List.filter_map]
    simp [Function.comp_def]
  rw [ofClauses, aggregate, hq, hgrouped]

theorem exists_grouped_of_parse {text : Text} {q : Query} (h : Query.parse text = .ok q) :
    ∃ cs, Grammar.clauses text = .ok cs ∧ q = grouped cs := by
  rw [Query.parse] at h
  cases hcs : Grammar.clauses text with
  | error e =>
    rw [hcs] at h
    cases h
  | ok cs =>
    rw [hcs] at h
    have hgrouped : ofClauses cs = .ok q := h
    rw [ofClauses_eq] at hgrouped
    exact ⟨cs, rfl, (Except.ok.inj hgrouped).symm⟩

/-- The clauses of a grouped query, bucket by bucket. -/
def byRole (cs : List Clause) : List Clause :=
  Role.all.flatMap fun role => cs.filter fun c => c.role = role

theorem mem_byRole {c : Clause} {cs : List Clause} : c ∈ byRole cs ↔ c ∈ cs := by
  simp [byRole, Role.mem_all]

theorem items_grouped (cs : List Clause) : (grouped cs).items = (byRole cs).map .clause := by
  have hbucket : (grouped cs).bucket = fun role => (cs.filter fun c => c.role = role).map .clause :=
    funext (bucket_grouped cs)
  rw [items, hbucket, byRole, List.map_flatMap]

theorem filter_filter_role (cs : List Clause) (r s : Role) :
    (cs.filter fun c => c.role = s).filter (fun c => c.role = r) =
      if r = s then cs.filter fun c => c.role = r else [] := by
  rw [List.filter_filter]
  split
  case isTrue h => simp [h]
  case isFalse h =>
    rw [List.filter_eq_nil_iff]
    intro c _ hc
    simp only [Bool.and_eq_true, decide_eq_true_eq] at hc
    exact h (hc.1.symm.trans hc.2)

theorem filter_byRole (cs : List Clause) (role : Role) :
    (byRole cs).filter (fun c => c.role = role) = cs.filter fun c => c.role = role := by
  rw [byRole, List.filter_flatMap]
  simp only [filter_filter_role]
  cases role <;> simp [Role.all]

theorem grouped_byRole (cs : List Clause) : grouped (byRole cs) = grouped cs := by
  apply ext_bucket
  intro role
  rw [bucket_grouped, bucket_grouped, filter_byRole]

theorem byRole_eq_nil_iff {cs : List Clause} : byRole cs = [] ↔ cs = [] := by
  constructor
  · intro h
    rw [List.eq_nil_iff_forall_not_mem]
    intro c hc
    rw [← mem_byRole, h] at hc
    cases hc
  · rintro rfl
    rfl

theorem isEmpty_grouped {cs : List Clause} : (grouped cs).isEmpty = true ↔ cs = [] := by
  rw [isEmpty_iff_items, items_grouped, List.map_eq_nil_iff, byRole_eq_nil_iff]

end Query
end SearchQuery
