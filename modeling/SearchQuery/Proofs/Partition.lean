import Mathlib.Data.List.Forall2
import SearchQuery.Proofs.NeutralForms
import SearchQuery.Proofs.Steps
import SearchQuery.Value.Equality

/-!
# Aggregation as a partition

Aggregation is a stable partition of items by what stands in the place of their role. It forgets how
items of different roles were mixed and nothing else, and it fails at the first item that equals no
role. What equals a role is a role or its name; a bucket, on the other hand, is only found by a
role.
-/

namespace SearchQuery

theorem Scalar.equals_text_iff {s : Scalar} {t : Text} :
    s.equals (.text t) = true ↔ s = .text t := by
  cases s with
  | text u => simp [equals, sameKey_text_iff]
  | float x => cases h : x.toInt? <;> simp [equals, SameKey, canonical, h]
  | _ => simp [equals, SameKey, canonical]

theorem Role.named?_eq_some_iff {name : Text} {role : Role} :
    named? name = some role ↔ name = role.name := by
  constructor
  · intro h
    have hname := List.find?_some h
    exact (of_decide_eq_true hname).symm
  · rintro rfl
    exact named?_name role

namespace Item

/-- Whether what stands in the place of the role equals the role. -/
def plays (role : Role) (item : Item) : Bool :=
  match item.marker with
  | some marker => marker.equals (.text role.name)
  | none => false

/-- Why an item has no bucket: it is no clause, or what it has as its role equals none. -/
inductive Refused : Item → QueryError → Prop
  | foreign (value : Value) : Refused (.foreign value) (.unknownClause value)
  | marked {marker : Scalar} (body : Body) : (∀ role : Role, marker ≠ .text role.name) →
      Refused (.marked marker body) (.unknownOperator (.scalar marker))

theorem plays_marked {marker : Scalar} {body : Body} {role : Role} :
    (marked marker body).plays role = true ↔ marker = .text role.name := Scalar.equals_text_iff

theorem plays_clause {c : Clause} {role : Role} :
    (clause c).plays role = true ↔ c.role = role := by
  have hname : (clause c).plays role = true ↔ Scalar.text c.role.name = .text role.name :=
    Scalar.equals_text_iff
  rw [hname, Scalar.text.injEq, Role.name_injective.eq_iff]

theorem role_marked_eq_ok {marker : Scalar} {body : Body} {role : Role} :
    (marked marker body).role = .ok role ↔ marker = .text role.name := by
  cases marker with
  | text name =>
    rw [Scalar.text.injEq, ← Role.named?_eq_some_iff]
    simp only [Item.role]
    cases Role.named? name <;> simp
  | _ => simp [Item.role]

/-- An item has the bucket of the role that it plays. -/
theorem role_eq_ok_iff {item : Item} {role : Role} :
    item.role = .ok role ↔ item.plays role = true := by
  cases item with
  | clause c => rw [plays_clause, Item.role, Except.ok.injEq]
  | marked marker body => rw [plays_marked, role_marked_eq_ok]
  | foreign value => simp [Item.role, plays, marker]

theorem role_marked (marker : Scalar) (body : Body) :
    (∃ role, (marked marker body).role = .ok role) ∨
      (marked marker body).role = .error (.unknownOperator (.scalar marker)) := by
  cases marker with
  | text name => cases h : Role.named? name <;> simp [Item.role, h]
  | _ => exact .inr rfl

theorem role_eq_error_iff {item : Item} {e : QueryError} :
    item.role = .error e ↔ item.Refused e := by
  constructor
  · intro h
    cases item with
    | clause c => cases h
    | foreign value =>
      cases h
      exact .foreign value
    | marked marker body =>
      have hmarker : ∀ role : Role, marker ≠ .text role.name := by
        intro role hrole
        rw [role_marked_eq_ok.2 hrole] at h
        cases h
      rcases role_marked marker body with ⟨role, hr⟩ | hr
      · exact absurd (role_marked_eq_ok.1 hr) (hmarker role)
      · rw [hr] at h
        cases h
        exact .marked body hmarker
  · rintro (⟨value⟩ | ⟨body, hmarker⟩)
    · rfl
    · rcases role_marked _ body with ⟨role, hr⟩ | hr
      · exact absurd (role_marked_eq_ok.1 hr) (hmarker role)
      · exact hr

theorem role?_eq_some_iff {item : Item} {role : Role} :
    item.role? = some role ↔ item.plays role = true := by
  rw [← role_eq_ok_iff, role?]
  cases item.role <;> simp [Except.toOption]

/-- An item plays one role at most. -/
theorem plays_unique {item : Item} {r s : Role} (hr : item.plays r = true)
    (hs : item.plays s = true) : r = s := by
  have hrole := (role_eq_ok_iff.2 hr).symm.trans (role_eq_ok_iff.2 hs)
  exact Except.ok.inj hrole

theorem equals_self {item : Item} {role : Role} (h : item.plays role = true) :
    item.equals item = true := by
  cases item with
  | clause c => simp [equals]
  | marked marker body =>
    obtain rfl := plays_marked.1 h
    simp [equals, Scalar.equals_text_iff]
  | foreign value => cases h

end Item

namespace Query

variable {items : List Item} {q : Query}

/-- Two queries are equal if their buckets are, item by item. -/
theorem equals_iff {p q : Query} :
    p.equals q = true ↔
      ∀ role, List.Forall₂ (fun x y => x.equals y = true) (p.bucket role) (q.bucket role) := by
  simp only [equals, List.all_eq_true, Role.mem_all, true_imp_iff, Bool.and_eq_true, beq_iff_eq,
    Prod.forall, List.forall₂_iff_zip]

theorem items_insert_perm (q : Query) (item : Item) (role : Role) :
    (q.insert item role).items.Perm (q.items ++ [item]) := by
  have hmove (a b : List Item) : (a ++ item :: b).Perm (a ++ b ++ [item]) :=
    List.perm_middle.trans (List.perm_append_singleton item (a ++ b)).symm
  cases role with
  | optional =>
    simpa [items, Role.all, bucket, insert] using hmove q.optional (q.required ++ q.excluded)
  | required =>
    simpa [items, Role.all, bucket, insert] using
      hmove (q.optional ++ q.required) q.excluded
  | excluded => simp [items, Role.all, bucket, insert]

/-- Every item is in the query, as often as it is among those that were placed. -/
theorem items_foldlM_place_perm {items : List Item} {q q' : Query}
    (h : items.foldlM place q = .ok q') : q'.items.Perm (q.items ++ items) := by
  induction items generalizing q with
  | nil =>
    cases h
    simp
  | cons item items ih =>
    rw [List.foldlM_cons] at h
    cases hp : q.place item with
    | error e =>
      rw [hp] at h
      cases h
    | ok u =>
      rw [hp] at h
      obtain ⟨role, -, rfl⟩ := place_eq_ok hp
      have hstep := items_insert_perm q item role
      have hrun := (ih h).trans (hstep.append_right items)
      simpa using hrun

theorem place_eq_error {q : Query} {item : Item} {e : QueryError} :
    q.place item = .error e ↔ item.role = .error e := by
  rw [place]
  cases item.role <;> simp [bind, Except.bind, pure, Except.pure]

theorem exists_place_iff {q : Query} {item : Item} :
    (∃ q', q.place item = .ok q') ↔ ∃ role, item.role = .ok role := by
  rw [place]
  cases item.role <;> simp [pure, Except.pure]

/-- Placing items stops at the first one that has no bucket. -/
theorem foldlM_place_eq_error {items : List Item} {q : Query} {e : QueryError} :
    items.foldlM place q = .error e ↔
      ∃ before item after, items = before ++ item :: after ∧
        (∀ i ∈ before, ∃ role, i.role = .ok role) ∧ item.role = .error e := by
  induction items generalizing q with
  | nil => simp [pure, Except.pure]
  | cons item items ih =>
    rw [List.foldlM_cons, bind_eq_error_iff, place_eq_error, exists_first_cons_iff]
    simp only [ih, exists_and_right, exists_place_iff]

/-! ## Aggregated queries -/

theorem bucket_aggregate_plays (h : aggregate items = .ok q) (role : Role) :
    q.bucket role = items.filter (Item.plays role) := by
  rw [bucket_aggregate h]
  apply List.filter_congr
  intro item _
  rw [Bool.eq_iff_iff, decide_eq_true_eq, Item.role?_eq_some_iff]

theorem items_aggregate_perm (h : aggregate items = .ok q) : q.items.Perm items :=
  items_foldlM_place_perm h

theorem exists_aggregate_iff :
    (∃ q, aggregate items = .ok q) ↔ ∀ item ∈ items, ∃ role, Item.plays role item = true := by
  constructor
  · rintro ⟨q, hq⟩ item hitem
    rw [← (items_aggregate_perm hq).mem_iff, Query.items, List.mem_flatMap] at hitem
    obtain ⟨role, -, hitem⟩ := hitem
    rw [bucket_aggregate_plays hq, List.mem_filter] at hitem
    exact ⟨role, hitem.2⟩
  · intro h
    apply exists_foldlM_place empty
    intro item hitem
    obtain ⟨role, hplays⟩ := h item hitem
    exact ⟨role, Item.role_eq_ok_iff.2 hplays⟩

theorem aggregate_eq_error {e : QueryError} :
    aggregate items = .error e ↔
      ∃ before item after, items = before ++ item :: after ∧
        (∀ i ∈ before, ∃ role, Item.plays role i = true) ∧ item.Refused e := by
  simp only [← Item.role_eq_ok_iff, ← Item.role_eq_error_iff]
  exact foldlM_place_eq_error

/-- Two aggregated queries are the same if the items of each role are. -/
theorem aggregate_eq_iff {others : List Item} {p : Query} (hq : aggregate items = .ok q)
    (hp : aggregate others = .ok p) :
    q = p ↔ ∀ role, items.filter (Item.plays role) = others.filter (Item.plays role) := by
  simp only [← bucket_aggregate_plays hq, ← bucket_aggregate_plays hp]
  constructor
  · rintro rfl role
    rfl
  · exact ext_bucket

theorem aggregate_eq_ok_iff {q : Query} :
    aggregate items = .ok q ↔
      (∀ item ∈ items, ∃ role, Item.plays role item = true) ∧
        ∀ role, q.bucket role = items.filter (Item.plays role) := by
  constructor
  · intro h
    exact ⟨exists_aggregate_iff.1 ⟨q, h⟩, bucket_aggregate_plays h⟩
  · rintro ⟨hplays, hbucket⟩
    obtain ⟨p, hp⟩ := exists_aggregate_iff.2 hplays
    have hqp : q = p := ext_bucket fun role =>
      (hbucket role).trans (bucket_aggregate_plays hp role).symm
    rw [hqp, hp]

/-- Items that equal one role, of those that equal another. -/
theorem filter_filter_plays (items : List Item) (r s : Role) :
    (items.filter (Item.plays s)).filter (Item.plays r) =
      if r = s then items.filter (Item.plays r) else [] := by
  rw [List.filter_filter]
  split
  case isTrue h => simp [h]
  case isFalse h =>
    rw [List.filter_eq_nil_iff]
    intro item _ hitem
    rw [Bool.and_eq_true] at hitem
    exact h (Item.plays_unique hitem.1 hitem.2)

theorem filter_items_aggregate (h : aggregate items = .ok q) (role : Role) :
    q.items.filter (Item.plays role) = items.filter (Item.plays role) := by
  have hbucket : q.bucket = fun r => items.filter (Item.plays r) :=
    funext (bucket_aggregate_plays h)
  rw [Query.items, hbucket, List.filter_flatMap]
  simp only [filter_filter_plays]
  cases role <;> simp [Role.all]

theorem aggregate_items_aggregate (h : aggregate items = .ok q) : aggregate q.items = .ok q := by
  rw [aggregate_eq_ok_iff]
  constructor
  · intro item hitem
    rw [(items_aggregate_perm h).mem_iff] at hitem
    exact exists_aggregate_iff.1 ⟨q, h⟩ item hitem
  · intro role
    rw [filter_items_aggregate h, bucket_aggregate_plays h]

theorem equals_self_of_aggregate (h : aggregate items = .ok q) : q.equals q = true := by
  rw [equals_iff]
  intro role
  rw [List.forall₂_same, bucket_aggregate_plays h]
  intro item hitem
  exact Item.equals_self (List.mem_filter.1 hitem).2

theorem size_aggregate (h : aggregate items = .ok q) : q.size = items.length := by
  rw [← length_items, (items_aggregate_perm h).length_eq]

theorem insert_comm (q : Query) (x y : Item) {r s : Role} (h : r ≠ s) :
    (q.insert x r).insert y s = (q.insert y s).insert x r := by
  apply ext_bucket
  intro role
  simp only [bucket_insert]
  by_cases hr : role = r
  · have hs : role ≠ s := fun hs => h (hr.symm.trans hs)
    simp [hr, h]
  · simp [hr]

theorem place_of_plays {item : Item} {role : Role} (q : Query) (h : item.plays role = true) :
    q.place item = .ok (q.insert item role) := by
  rw [place, Item.role_eq_ok_iff.2 h]
  rfl

/-- Neighbours of different roles may be exchanged. -/
theorem aggregate_exchange {x y : Item} {r s : Role} (before after : List Item)
    (hx : x.plays r = true) (hy : y.plays s = true) (h : r ≠ s) :
    aggregate (before ++ y :: x :: after) = aggregate (before ++ x :: y :: after) := by
  have hexchange (q : Query) :
      (y :: x :: after).foldlM place q = (x :: y :: after).foldlM place q := by
    calc
      _ = after.foldlM place ((q.insert y s).insert x r) := by
        rw [List.foldlM_cons, place_of_plays _ hy]
        change (x :: after).foldlM place (q.insert y s) = _
        rw [List.foldlM_cons, place_of_plays _ hx]
        rfl
      _ = after.foldlM place ((q.insert x r).insert y s) := by rw [insert_comm q x y h]
      _ = _ := by
        rw [List.foldlM_cons, place_of_plays _ hx]
        change _ = (y :: after).foldlM place (q.insert x r)
        rw [List.foldlM_cons, place_of_plays _ hy]
        rfl
  rw [aggregate_append, aggregate_append, funext hexchange]

/-- Aggregation keeps the items of each role in order and nothing of how the roles were mixed; the
first item that plays no role is the failure. -/
theorem aggregate_partition (items : List Item) :
    (∀ q, aggregate items = .ok q →
      (∀ role, q.bucket role = items.filter (Item.plays role)) ∧
      q.size = items.length ∧ q.items.Perm items ∧
      aggregate q.items = .ok q ∧ q.equals q = true ∧
      ∀ others p, aggregate others = .ok p →
        (q = p ↔ ∀ role, items.filter (Item.plays role) = others.filter (Item.plays role)) ∧
        (q.equals p = true ↔ ∀ role, List.Forall₂ (fun x y => x.equals y = true)
          (items.filter (Item.plays role)) (others.filter (Item.plays role)))) ∧
    (∀ before x y after r s, items = before ++ x :: y :: after →
      x.plays r = true → y.plays s = true → r ≠ s →
      aggregate (before ++ y :: x :: after) = aggregate items) ∧
    (∀ e, aggregate items = .error e ↔
      ∃ before item after, items = before ++ item :: after ∧ item.Refused e ∧
        (∀ i ∈ before, ∃ role, Item.plays role i = true) ∧
        ∀ start, start <+: before → ∃ q, aggregate start = .ok q) := by
  refine ⟨?_, ?_, ?_⟩
  · intro q h
    refine ⟨bucket_aggregate_plays h, size_aggregate h, items_aggregate_perm h,
      aggregate_items_aggregate h, equals_self_of_aggregate h, ?_⟩
    intro others p hp
    refine ⟨aggregate_eq_iff h hp, ?_⟩
    simp only [equals_iff, bucket_aggregate_plays h, bucket_aggregate_plays hp]
  · rintro before x y after r s rfl hx hy hrs
    exact aggregate_exchange before after hx hy hrs
  · intro e
    rw [aggregate_eq_error]
    constructor
    · rintro ⟨before, item, after, rfl, hbefore, hitem⟩
      refine ⟨before, item, after, rfl, hitem, hbefore, ?_⟩
      intro start hstart
      exact exists_aggregate_iff.2 fun i hi => hbefore i (hstart.subset hi)
    · rintro ⟨before, item, after, rfl, hitem, hbefore, -⟩
      exact ⟨before, item, after, rfl, hbefore, hitem⟩

/-- Roles in turns, one of them given by its name. -/
def mixedItems : List Item :=
  [.clause ⟨.required, .term "a"⟩, .marked (.text "optional") (.term "b"),
    .clause ⟨.excluded, .phrase "c d"⟩, .clause ⟨.required, .term "a"⟩]

def mixedQuery : Query where
  optional := [.marked (.text "optional") (.term "b")]
  required := [.clause ⟨.required, .term "a"⟩, .clause ⟨.required, .term "a"⟩]
  excluded := [.clause ⟨.excluded, .phrase "c d"⟩]

/-- The second item equals no role, and the third is no clause. -/
def straySequence : List Item :=
  [.clause ⟨.required, .term "a"⟩, .marked (.text "should") (.term "b"), .foreign (.text "c")]

theorem aggregate_partition_mixed :
    (aggregate mixedItems = .ok mixedQuery ∧ mixedQuery.size = 4 ∧
      mixedQuery.items.Perm mixedItems ∧ aggregate mixedQuery.items = .ok mixedQuery) ∧
    aggregate (.marked (.text "optional") (.term "b") :: .clause ⟨.required, .term "a"⟩ ::
      mixedItems.drop 2) = aggregate mixedItems ∧
    aggregate straySequence = .error (.unknownOperator (.text "should")) ∧
    ∃ before item after, straySequence = before ++ item :: after ∧
      item.Refused (.unknownOperator (.text "should")) := by
  have hmixed : aggregate mixedItems = .ok mixedQuery := rfl
  have hstray : aggregate straySequence = .error (.unknownOperator (.text "should")) := rfl
  obtain ⟨-, hsize, hperm, hagain, -⟩ := (aggregate_partition mixedItems).1 mixedQuery hmixed
  have hexchange := (aggregate_partition mixedItems).2.1 [] _ _ (mixedItems.drop 2)
    .required .optional rfl (by decide) (by decide) (by decide)
  obtain ⟨before, item, after, hitems, hrefused, -⟩ :=
    ((aggregate_partition straySequence).2.2 _).1 hstray
  exact ⟨⟨hmixed, hsize, hperm, hagain⟩, hexchange, hstray, before, item, after, hitems, hrefused⟩

/-! ## Roles and their names -/

/-- The bucket found by what an item has in the place of its role, if it is found. -/
def bucketOf? (q : Query) : Item → Option (List Item)
  | .clause c => some (q.bucket c.role)
  | .marked marker _ => (q.bucketOfValue (.scalar marker)).toOption
  | .foreign _ => none

theorem exists_plays_iff {item : Item} :
    (∃ role, item.plays role = true) ↔
      (∃ c, item = .clause c) ∨
        ∃ (role : Role) (body : Body), item = .marked (.text role.name) body := by
  cases item with
  | clause c => simp [Item.plays_clause]
  | marked marker body => simp [Item.plays_marked]
  | foreign value => simp [Item.plays, Item.marker]

theorem mem_bucket_of_mem_items {c : Clause} (h : aggregate items = .ok q)
    (hc : Item.clause c ∈ q.items) : Item.clause c ∈ q.bucket c.role := by
  rw [bucket_aggregate_plays h, List.mem_filter]
  exact ⟨(items_aggregate_perm h).mem_iff.1 hc, Item.plays_clause.2 rfl⟩

/-- An item is found in the bucket of what it has as its role exactly if it has a role there. -/
theorem exists_bucketOf?_iff (h : aggregate items = .ok q) {item : Item} (hitem : item ∈ q.items) :
    (∃ found, q.bucketOf? item = some found ∧ item ∈ found) ↔ ∃ c, item = .clause c := by
  cases item with
  | clause c =>
    have hmem := mem_bucket_of_mem_items h hitem
    simpa [bucketOf?] using hmem
  | marked marker body => simp [bucketOf?, bucketOfValue, Except.toOption]
  | foreign value => simp [bucketOf?]

theorem exists_aggregate_iff_named :
    (∃ q, aggregate items = .ok q) ↔
      ∀ item ∈ items, (∃ c, item = .clause c) ∨
        ∃ (role : Role) (body : Body), item = .marked (.text role.name) body := by
  rw [exists_aggregate_iff]
  simp only [exists_plays_iff]

/-- Without items that have the mere name of a role, those that play a role are the clauses. -/
theorem exists_plays_iff_of_not_named {item : Item} (hitem : item ∈ items)
    (h : ∀ (role : Role) (body : Body), .marked (.text role.name) body ∉ items) :
    (∃ role, item.plays role = true) ↔ ∃ c, item = .clause c := by
  rw [exists_plays_iff, or_iff_left]
  rintro ⟨role, body, rfl⟩
  exact h role body hitem

/-- The name of a role is placed like the role but does not find its bucket. So a query may be
aggregated from items that are no clauses, and then not all of them are found in their buckets;
without mere names there are only clauses in a query, and the first other item is the failure. -/
theorem aggregate_named_roles (items : List Item) :
    ((∃ q, aggregate items = .ok q) ↔
      ∀ item ∈ items, (∃ c, item = .clause c) ∨
        ∃ (role : Role) (body : Body), item = .marked (.text role.name) body) ∧
    (∀ q, aggregate items = .ok q →
      ((∀ item ∈ q.items, ∃ found, q.bucketOf? item = some found ∧ item ∈ found) ↔
        ∀ item ∈ items, ∃ c, item = .clause c)) ∧
    ((∀ (role : Role) (body : Body), .marked (.text role.name) body ∉ items) →
      ((∃ q, aggregate items = .ok q) ↔ ∀ item ∈ items, ∃ c, item = .clause c) ∧
      ∀ e, aggregate items = .error e ↔
        ∃ before item after, items = before ++ item :: after ∧
          (∀ i ∈ before, ∃ c, i = .clause c) ∧ item.Refused e) := by
  refine ⟨exists_aggregate_iff_named, ?_, ?_⟩
  · intro q h
    calc
      _ ↔ ∀ item ∈ q.items, ∃ c, item = .clause c :=
        forall₂_congr fun _ hitem => exists_bucketOf?_iff h hitem
      _ ↔ _ := by simp only [(items_aggregate_perm h).mem_iff]
  · intro h
    constructor
    · rw [exists_aggregate_iff]
      exact forall₂_congr fun _ hitem => exists_plays_iff_of_not_named hitem h
    · intro e
      rw [aggregate_eq_error]
      constructor
      · rintro ⟨before, item, after, rfl, hbefore, hrefused⟩
        refine ⟨before, item, after, rfl, ?_, hrefused⟩
        intro i hi
        have hmem : i ∈ before ++ item :: after := List.mem_append_left _ hi
        exact (exists_plays_iff_of_not_named hmem h).1 (hbefore i hi)
      · rintro ⟨before, item, after, rfl, hbefore, hrefused⟩
        refine ⟨before, item, after, rfl, ?_, hrefused⟩
        intro i hi
        exact exists_plays_iff.2 (.inl (hbefore i hi))

/-- Clauses, and in front of another item one whose role is a number. -/
def numberedItems : List Item :=
  [.clause ⟨.required, .term "a"⟩, .clause ⟨.optional, .phrase ""⟩,
    .marked (.int 0) (.term "b"), .foreign .null]

theorem aggregate_named_roles_number :
    (∀ (role : Role) (body : Body), .marked (.text role.name) body ∉ numberedItems) ∧
    aggregate numberedItems = .error (.unknownOperator (.int 0)) ∧
    (∃ before item after, numberedItems = before ++ item :: after ∧
      (∀ i ∈ before, ∃ c, i = .clause c) ∧ item.Refused (.unknownOperator (.int 0))) ∧
    aggregate mixedItems = .ok mixedQuery ∧
    ¬ ∀ item ∈ mixedQuery.items, ∃ found,
      mixedQuery.bucketOf? item = some found ∧ item ∈ found := by
  have hnone : ∀ (role : Role) (body : Body), .marked (.text role.name) body ∉ numberedItems := by
    intro role body
    simp [numberedItems]
  have herror : aggregate numberedItems = .error (.unknownOperator (.int 0)) := rfl
  have hmixed : aggregate mixedItems = .ok mixedQuery := rfl
  have hname : ¬ ∀ item ∈ mixedItems, ∃ c, item = .clause c := by simp [mixedItems]
  refine ⟨hnone, herror, ?_, hmixed, ?_⟩
  · exact (((aggregate_named_roles numberedItems).2.2 hnone).2 _).1 herror
  · exact mt ((aggregate_named_roles mixedItems).2.1 mixedQuery hmixed).1 hname

/-- A name is taken for a role when a clause is placed, and refused when its bucket is looked up. -/
theorem aggregate_name_of_role :
    ∃ q item, aggregate [item] = .ok q ∧ (∀ c, item ≠ .clause c) ∧
      item ∈ q.required ∧ item = .marked (.text "required") (.term "a") ∧
      q.bucketOfValue (.text "required") = .error (.unknownOperator (.text "required")) :=
  ⟨⟨[], [.marked (.text "required") (.term "a")], []⟩, .marked (.text "required") (.term "a"), rfl,
    by simp, List.mem_singleton.2 rfl, rfl, rfl⟩

end Query
end SearchQuery
