import Mathlib.Data.List.Nodup
import Mathlib.Data.List.Perm.Subperm
import SearchQuery.Proofs.Partition
import SearchQuery.Proofs.Writing

/-!
# Queries from compiled bodies

Compiling loses nothing: a query can be read back from its neutral form, and from its bool query
without knowing the field. So the bodies of two texts are equal exactly if their queries are.
-/

namespace SearchQuery

namespace Value

/-- Whether two lists of fields have equal values under the same keys. -/
def Agree (fs gs : List (Text × Value)) : Prop :=
  ∀ key, Option.Rel (fun a b => a.equals b = true) (fs.lookup key) (gs.lookup key)

theorem lookup_of_mem {fs : List (Text × Value)} (h : (fs.map Prod.fst).Nodup) {key : Text}
    {v : Value} (hmem : (key, v) ∈ fs) : fs.lookup key = some v := by
  induction fs with
  | nil => cases hmem
  | cons f fs ih =>
    obtain ⟨k, w⟩ := f
    rw [List.map_cons, List.nodup_cons] at h
    rw [List.lookup_cons]
    rcases List.mem_cons.1 hmem with heq | hrest
    · cases heq
      rw [beq_self_eq_true]
    · have hne : key ≠ k := by
        rintro rfl
        exact h.1 (List.mem_map.2 ⟨_, hrest, rfl⟩)
      rw [beq_eq_false_iff_ne.2 hne]
      exact ih h.2 hrest

theorem lookup_isSome_iff_mem {fs : List (Text × Value)} {key : Text} :
    (fs.lookup key).isSome = true ↔ key ∈ fs.map Prod.fst := by
  rw [List.lookup_isSome_iff, List.mem_map]
  simp only [beq_iff_eq, @eq_comm _ key]

theorem entriesWithin_fields {fs gs : List (Text × Value)} :
    entriesWithin (gs.map fun (k, v) => (.text k, v)) (fs.map fun (k, v) => (.text k, v)) = true ↔
      ∀ key v, (key, v) ∈ fs → ∃ w, gs.lookup key = some w ∧ v.equals w = true := by
  induction fs with
  | nil => simp [entriesWithin]
  | cons f fs ih =>
    obtain ⟨k, v⟩ := f
    rw [List.map_cons, entriesWithin, Bool.and_eq_true, ih, Entries.get?_text]
    constructor
    · rintro ⟨hfirst, hrest⟩ key u hmem
      rcases List.mem_cons.1 hmem with heq | hmem
      · cases heq
        cases h : gs.lookup k with
        | none =>
          rw [h] at hfirst
          cases hfirst
        | some w =>
          rw [h] at hfirst
          exact ⟨w, rfl, hfirst⟩
      · exact hrest key u hmem
    · intro h
      obtain ⟨w, hw, heq⟩ := h k v (by simp)
      rw [hw]
      exact ⟨heq, fun key u hmem => h key u (List.mem_cons_of_mem _ hmem)⟩

theorem Agree.lookup_eq_none_iff {fs gs : List (Text × Value)} (h : Agree fs gs) (key : Text) :
    fs.lookup key = none ↔ gs.lookup key = none := by
  have hkey := h key
  generalize fs.lookup key = a at hkey ⊢
  generalize gs.lookup key = b at hkey ⊢
  cases hkey <;> simp

theorem Agree.mem_keys_iff {fs gs : List (Text × Value)} (h : Agree fs gs) (key : Text) :
    key ∈ fs.map Prod.fst ↔ key ∈ gs.map Prod.fst := by
  rw [← lookup_isSome_iff_mem, ← lookup_isSome_iff_mem, Option.isSome_iff_ne_none,
    Option.isSome_iff_ne_none, ne_eq, ne_eq, h.lookup_eq_none_iff]

/-- Mappings are equal if they agree under every key. -/
theorem equals_object_iff {fs gs : List (Text × Value)} (hf : (fs.map Prod.fst).Nodup)
    (hg : (gs.map Prod.fst).Nodup) : (object fs).equals (object gs) = true ↔ Agree fs gs := by
  rw [object, object, equals, Bool.and_eq_true, entriesWithin_fields, List.length_map,
    List.length_map, beq_iff_eq]
  constructor
  · rintro ⟨hlength, hwithin⟩ key
    cases hkey : fs.lookup key with
    | some v =>
      obtain ⟨before, after, rfl, -⟩ := List.lookup_eq_some_iff.1 hkey
      obtain ⟨w, hw, heq⟩ := hwithin key v (by simp)
      rw [hw]
      exact .some heq
    | none =>
      -- as many keys on both sides, and those of `fs` are all in `gs`, so `gs` has no others
      have hsubset : fs.map Prod.fst ⊆ gs.map Prod.fst := by
        intro k hk
        obtain ⟨⟨k, v⟩, hmem, rfl⟩ := List.mem_map.1 hk
        obtain ⟨w, hw, -⟩ := hwithin k v hmem
        exact lookup_isSome_iff_mem.1 (by rw [hw]; rfl)
      have hperm : (fs.map Prod.fst).Perm (gs.map Prod.fst) :=
        (List.subperm_of_subset hf hsubset).perm_of_length_le (by simp [hlength])
      have hnone : gs.lookup key = none := by
        rw [← Option.not_isSome_iff_eq_none, lookup_isSome_iff_mem, ← hperm.mem_iff,
          ← lookup_isSome_iff_mem, hkey]
        exact Bool.false_ne_true
      rw [hnone]
      exact .none
  · intro h
    constructor
    · have hperm := (List.perm_ext_iff_of_nodup hf hg).2 h.mem_keys_iff
      simpa using hperm.length_eq
    · intro key v hmem
      have hkey := h key
      rw [lookup_of_mem hf hmem] at hkey
      generalize gs.lookup key = b at hkey ⊢
      cases hkey with
      | some heq => exact ⟨_, rfl, heq⟩

theorem equals_text_iff {t u : Text} : (text t).equals (text u) = true ↔ t = u := by
  have hscalar : (text t).equals (text u) = true ↔ Scalar.text t = .text u :=
    Scalar.equals_text_iff
  rw [hscalar, Scalar.text.injEq]

/-- Mappings with one field each are equal if their keys and their values are. -/
theorem equals_singleton_iff {k l : Text} {v w : Value} :
    (object [(k, v)]).equals (object [(l, w)]) = true ↔ l = k ∧ v.equals w = true := by
  by_cases h : l = k
  · simp [object, equals, entriesWithin, Entries.get?, h]
  · simp [object, equals, entriesWithin, Entries.get?, Scalar.sameKey_text_iff, h]

/-- Lists of values are equal if what the values were made from is. -/
theorem equals_list_map_iff {α : Type} {f : α → Value}
    (hf : ∀ a b, (f a).equals (f b) = true ↔ a = b) {as bs : List α} :
    (list (as.map f)).equals (list (bs.map f)) = true ↔ as = bs := by
  have hlist (as bs : List α) :
      (as.length = bs.length ∧ listEquals (as.map f) (bs.map f) = true) ↔ as = bs := by
    induction as generalizing bs with
    | nil => cases bs <;> simp [listEquals]
    | cons a as ih =>
      cases bs with
      | nil => simp
      | cons b bs =>
        rw [List.map_cons, List.map_cons, listEquals, Bool.and_eq_true, hf, List.length_cons,
          List.length_cons, Nat.add_right_cancel_iff, and_left_comm, ih, List.cons.injEq]
  rw [equals, Bool.and_eq_true, beq_iff_eq, List.length_map, List.length_map, hlist]

end Value

namespace Body

def ofKind? (kind t : Text) : Option Body :=
  if kind = "match" then some (.term t)
  else if kind = "match_phrase" then some (.phrase t)
  else none

/-- What a leaf of a neutral form looks for. -/
def ofLeaf? : Value → Option Body
  | .map [(.text kind, .scalar (.text t))] => ofKind? kind t
  | _ => none

/-- What a leaf looks for on its field, whatever the field is. -/
def ofFieldLeaf? : Value → Option Body
  | .map [(.text kind, .map [(_, .scalar (.text t))])] => ofKind? kind t
  | _ => none

theorem ofLeaf?_leaf (b : Body) : ofLeaf? b.leaf = some b := by
  cases b <;> rfl

theorem ofFieldLeaf?_fieldLeaf (field : Text) (b : Body) :
    ofFieldLeaf? (BoolQuery.fieldLeaf field b) = some b := by
  cases b <;> rfl

theorem equals_leaf_iff (a b : Body) : a.leaf.equals b.leaf = true ↔ a = b := by
  cases a <;> cases b <;>
    simp [leaf, Value.equals_singleton_iff, Value.equals_text_iff]

theorem equals_fieldLeaf_iff (field : Text) (a b : Body) :
    (BoolQuery.fieldLeaf field a).equals (BoolQuery.fieldLeaf field b) = true ↔ a = b := by
  cases a <;> cases b <;>
    simp [BoolQuery.fieldLeaf, Value.equals_singleton_iff, Value.equals_text_iff]

end Body

/-- The entries that list values under the keys of roles, without empty lists. -/
def listed (key : Role → Text) (lists : Role → List Value) : List (Text × Value) :=
  Role.all.flatMap fun role => BoolQuery.entry (key role) (lists role)

section

variable {key : Role → Text} {lists : Role → List Value} {others : List (Text × Value)}

theorem lookup_listed (hkey : Function.Injective key) (role : Role) :
    (listed key lists).lookup (key role) =
      if (lists role).isEmpty then none else some (.list (lists role)) := by
  simp only [listed, Role.all, List.flatMap_cons, List.flatMap_nil, List.lookup_append,
    BoolQuery.entry, BoolQuery.lookup_conditional, hkey.eq_iff]
  cases role <;> simp

theorem lookup_listed_of_ne {k : Text} (h : ∀ role, k ≠ key role) :
    (listed key lists).lookup k = none := by
  simp [listed, Role.all, List.lookup_append, BoolQuery.entry, h]

theorem keys_listed :
    (listed key lists).map Prod.fst =
      (Role.all.filter fun role => !(lists role).isEmpty).map key := by
  rw [listed]
  induction Role.all with
  | nil => rfl
  | cons role roles ih =>
    rw [List.flatMap_cons, List.map_append, ih, List.filter_cons, BoolQuery.entry]
    cases (lists role).isEmpty <;> rfl

theorem nodup_keys_listed (hkey : Function.Injective key) :
    ((listed key lists).map Prod.fst).Nodup := by
  have hroles : Role.all.Nodup := by decide
  rw [keys_listed]
  exact (hroles.filter _).map hkey

theorem rel_list_iff (xs ys : List Value) :
    Option.Rel (fun a b => Value.equals a b = true)
        (if xs.isEmpty then none else some (.list xs))
        (if ys.isEmpty then none else some (.list ys)) ↔
      (Value.list xs).equals (.list ys) = true := by
  cases xs with
  | nil => cases ys <;> simp [Value.equals, Value.listEquals]
  | cons x xs => cases ys <;> simp [Value.equals]

/-- Lists under the keys of roles, with other entries behind them, agree exactly if the lists are
equal and the other entries agree. -/
theorem agree_listed_iff (hkey : Function.Injective key) (lists lists' : Role → List Value)
    {x y : List (Text × Value)} (hx : ∀ role, x.lookup (key role) = none)
    (hy : ∀ role, y.lookup (key role) = none) :
    Value.Agree (listed key lists ++ x) (listed key lists' ++ y) ↔
      (∀ role, (Value.list (lists role)).equals (.list (lists' role)) = true) ∧
        Value.Agree x y := by
  have hrole (role : Role) :
      Option.Rel (fun a b => Value.equals a b = true)
          ((listed key lists ++ x).lookup (key role))
          ((listed key lists' ++ y).lookup (key role)) ↔
        (Value.list (lists role)).equals (.list (lists' role)) = true := by
    rw [List.lookup_append, List.lookup_append, lookup_listed hkey, lookup_listed hkey, hx, hy,
      Option.or_none, Option.or_none, rel_list_iff]
  have hother {k : Text} (hk : ∀ role, k ≠ key role) :
      (listed key lists ++ x).lookup k = x.lookup k ∧
        (listed key lists' ++ y).lookup k = y.lookup k := by
    rw [List.lookup_append, List.lookup_append, lookup_listed_of_ne hk, lookup_listed_of_ne hk,
      Option.none_or, Option.none_or]
    exact ⟨rfl, rfl⟩
  constructor
  · intro hagree
    refine ⟨fun role => (hrole role).1 (hagree _), ?_⟩
    intro k
    by_cases hk : ∃ role, k = key role
    · obtain ⟨role, rfl⟩ := hk
      rw [hx, hy]
      exact .none
    · rw [not_exists] at hk
      rw [← (hother hk).1, ← (hother hk).2]
      exact hagree k
  · rintro ⟨hlists, hagree⟩ k
    by_cases hk : ∃ role, k = key role
    · obtain ⟨role, rfl⟩ := hk
      exact (hrole role).2 (hlists role)
    · rw [not_exists] at hk
      rw [(hother hk).1, (hother hk).2]
      exact hagree k

theorem leavesUnder_listed (hkey : Function.Injective key)
    (h : ∀ role, others.lookup (key role) = none) (role : Role) :
    BoolQuery.leavesUnder (key role)
      ((listed key lists ++ others).map fun (k, v) => (.text k, v)) = lists role := by
  rw [BoolQuery.leavesUnder, Entries.get?_text, List.lookup_append, lookup_listed hkey, h,
    Option.or_none]
  cases lists role <;> rfl

end

/-! ## Reading queries back -/

namespace Query

/-- What the clauses of a role look for, in order. -/
def bodies (cs : List Clause) (role : Role) : List Body :=
  (cs.filter fun c => c.role = role).map Clause.body

def itemsOf (role : Role) (bodies : List Body) : List Item :=
  bodies.map fun body => .clause ⟨role, body⟩

/-- The query whose leaves are listed under the keys of their roles. -/
def ofEntries? (leaf? : Value → Option Body) (key : Role → Text) (entries : Entries) :
    Option Query := do
  let optional ← (BoolQuery.leavesUnder (key .optional) entries).mapM leaf?
  let required ← (BoolQuery.leavesUnder (key .required) entries).mapM leaf?
  let excluded ← (BoolQuery.leavesUnder (key .excluded) entries).mapM leaf?
  return ⟨itemsOf .optional optional, itemsOf .required required, itemsOf .excluded excluded⟩

def ofNeutral? : Value → Option Query
  | .map entries => ofEntries? Body.ofLeaf? Role.name entries
  | _ => none

/-- The query that a bool query describes, whatever its field. -/
def ofBoolQuery? : Value → Option Query
  | .map [(.text kind, .map fields)] =>
    if kind = "match_all" then some empty
    else if kind = "bool" then ofEntries? Body.ofFieldLeaf? BoolQuery.occurrence fields
    else none
  | _ => none

theorem bucket_grouped_eq (cs : List Clause) (role : Role) :
    (grouped cs).bucket role = itemsOf role (bodies cs role) := by
  rw [bucket_grouped, itemsOf, bodies, List.map_map]
  apply List.map_congr_left
  rintro ⟨r, body⟩ hc
  obtain rfl : r = role := of_decide_eq_true (List.mem_filter.1 hc).2
  rfl

theorem itemsOf_injective (role : Role) : Function.Injective (itemsOf role) :=
  List.map_injective_iff.2 fun a b h => by simpa using h

theorem grouped_eq_iff {cs ds : List Clause} :
    grouped cs = grouped ds ↔ ∀ role, bodies cs role = bodies ds role := by
  constructor
  · intro h role
    apply itemsOf_injective role
    rw [← bucket_grouped_eq, ← bucket_grouped_eq, h]
  · intro h
    apply ext_bucket
    intro role
    rw [bucket_grouped_eq, bucket_grouped_eq, h]

theorem bodies_eq_nil_iff {cs : List Clause} :
    (∀ role, bodies cs role = []) ↔ cs = [] := by
  constructor
  · intro h
    rw [List.eq_nil_iff_forall_not_mem]
    intro c hc
    have hmem : c.body ∈ bodies cs c.role :=
      List.mem_map_of_mem (List.mem_filter.2 ⟨hc, decide_eq_true rfl⟩)
    rw [h] at hmem
    cases hmem
  · rintro rfl role
    rfl

/-- Entries that list the leaves of clauses are read as the query of the clauses. -/
theorem ofEntries?_listed {leaf : Body → Value} {leaf? : Value → Option Body} {key : Role → Text}
    (others : List (Text × Value)) (hleaf : ∀ body, leaf? (leaf body) = some body)
    (hkey : Function.Injective key) (h : ∀ role, others.lookup (key role) = none)
    (cs : List Clause) :
    ofEntries? leaf? key
      ((listed key (fun role => (bodies cs role).map leaf) ++ others).map
        fun (k, v) => (.text k, v)) = some (grouped cs) := by
  have hread (role : Role) : ((bodies cs role).map leaf).mapM leaf? = some (bodies cs role) := by
    induction bodies cs role with
    | nil => rfl
    | cons body rest ih =>
      rw [List.map_cons, List.mapM_cons, hleaf, ih]
      rfl
  have hgrouped : grouped cs = ⟨itemsOf .optional (bodies cs .optional),
      itemsOf .required (bodies cs .required), itemsOf .excluded (bodies cs .excluded)⟩ := by
    apply ext_bucket
    intro role
    rw [bucket_grouped_eq]
    cases role <;> rfl
  unfold ofEntries?
  simp only [leavesUnder_listed hkey h, hread]
  rw [hgrouped]
  rfl

theorem mapM_leaf_itemsOf (role : Role) (bodies : List Body) :
    (itemsOf role bodies).mapM Item.leaf = .ok (bodies.map Body.leaf) := by
  rw [itemsOf, List.mapM_map]
  exact List.mapM_pure

theorem neutral_grouped (cs : List Clause) :
    (grouped cs).neutral =
      .ok (.object (listed Role.name fun role => (bodies cs role).map Body.leaf)) := by
  have hentry (role : Role) : (grouped cs).neutralEntry role =
      .ok (BoolQuery.entry role.name ((bodies cs role).map Body.leaf)) := by
    rw [neutralEntry, bucket_grouped_eq, mapM_leaf_itemsOf, BoolQuery.entry]
    cases bodies cs role <;> rfl
  have hentries : Role.all.mapM (grouped cs).neutralEntry =
      .ok (Role.all.map fun role =>
        BoolQuery.entry role.name ((bodies cs role).map Body.leaf)) := by
    rw [funext hentry]
    exact List.mapM_pure
  rw [neutral, hentries, listed, List.flatMap_def]
  rfl

theorem occurrence_injective : Function.Injective BoolQuery.occurrence := by
  intro r s
  cases r <;> cases s <;> decide

theorem occurrence_ne_minimum (role : Role) :
    BoolQuery.occurrence role ≠ "minimum_should_match" := by
  cases role <;> decide

theorem lookup_statedMinimum (should must : List Value) (role : Role) :
    (BoolQuery.statedMinimum should must).lookup (BoolQuery.occurrence role) = none := by
  unfold BoolQuery.statedMinimum
  rw [BoolQuery.lookup_conditional, if_neg]
  exact fun h => occurrence_ne_minimum role h.1

def fieldLeaves (field : Text) (cs : List Clause) (role : Role) : List Value :=
  (bodies cs role).map (BoolQuery.fieldLeaf field)

def boolFields (field : Text) (cs : List Clause) : List (Text × Value) :=
  listed BoolQuery.occurrence (fieldLeaves field cs) ++
    BoolQuery.statedMinimum (fieldLeaves field cs .optional) (fieldLeaves field cs .required)

theorem boolFields_eq (field : Text) (cs : List Clause) :
    BoolQuery.boolFields (fieldLeaves field cs .optional) (fieldLeaves field cs .required)
      (fieldLeaves field cs .excluded) = boolFields field cs := by
  rw [BoolQuery.boolFields, boolFields, listed, Role.all, List.flatMap_cons,
    List.flatMap_cons, List.flatMap_cons, List.flatMap_nil, List.append_nil]
  rfl

theorem compile_grouped_eq (field : Text) (cs : List Clause) :
    BoolQuery.compile field (grouped cs) = .ok (if cs = []
      then .object [("match_all", .object [])]
      else .object [("bool", .object (boolFields field cs))]) := by
  have hleaves (role : Role) : BoolQuery.leavesOf field (cs.filter fun c => c.role = role) =
      fieldLeaves field cs role := by
    rw [BoolQuery.leavesOf, fieldLeaves, bodies, List.map_map]
    rfl
  rw [BoolQuery.compile_grouped, hleaves, hleaves, hleaves, boolFields_eq]
  simp only [isEmpty_grouped]

theorem ofNeutral?_neutral_grouped {cs : List Clause} {form : Value}
    (h : (grouped cs).neutral = .ok form) : ofNeutral? form = some (grouped cs) := by
  rw [neutral_grouped] at h
  cases h
  have hread := ofEntries?_listed [] Body.ofLeaf?_leaf Role.name_injective (fun _ => rfl) cs
  rwa [List.append_nil] at hread

theorem ofBoolQuery?_compile_grouped {cs : List Clause} {field : Text} {body : Value}
    (h : BoolQuery.compile field (grouped cs) = .ok body) :
    ofBoolQuery? body = some (grouped cs) := by
  rw [compile_grouped_eq] at h
  cases h
  by_cases hcs : cs = []
  · rw [if_pos hcs, hcs]
    rfl
  · rw [if_neg hcs]
    exact ofEntries?_listed _ (Body.ofFieldLeaf?_fieldLeaf field) occurrence_injective
      (lookup_statedMinimum _ _) cs

/-! ## Equal bodies -/

/-- Queries of clauses are equal only if they are the same. -/
theorem equals_grouped_iff {cs ds : List Clause} :
    (grouped cs).equals (grouped ds) = true ↔ grouped cs = grouped ds := by
  have hclause (a b : Clause) : (Item.clause a).equals (.clause b) = true ↔ a = b := by
    simp [Item.equals]
  have hinjective : Function.Injective (List.map Item.clause) :=
    List.map_injective_iff.2 fun a b h => Item.clause.inj h
  have hbucket (role : Role) :
      List.Forall₂ (fun x y => x.equals y = true) ((grouped cs).bucket role)
          ((grouped ds).bucket role) ↔ (grouped cs).bucket role = (grouped ds).bucket role := by
    rw [bucket_grouped, bucket_grouped, List.forall₂_map_left_iff, List.forall₂_map_right_iff,
      hinjective.eq_iff]
    simp only [hclause, List.forall₂_eq_eq_eq]
  rw [equals_iff]
  simp only [hbucket]
  constructor
  · exact ext_bucket
  · intro h role
    rw [h]

theorem nodup_keys_boolFields (field : Text) (cs : List Clause) :
    ((boolFields field cs).map Prod.fst).Nodup := by
  have hminimum (should must : List Value) :
      ((BoolQuery.statedMinimum should must).map Prod.fst).Nodup := by
    unfold BoolQuery.statedMinimum
    split
    · exact List.nodup_singleton _
    · exact List.nodup_nil
  rw [boolFields, List.map_append, List.nodup_append]
  refine ⟨nodup_keys_listed occurrence_injective, hminimum _ _, ?_⟩
  rintro key hkey _ hmem rfl
  rw [keys_listed] at hkey
  obtain ⟨role, -, rfl⟩ := List.mem_map.1 hkey
  rw [← Value.lookup_isSome_iff_mem, lookup_statedMinimum] at hmem
  cases hmem

theorem agree_statedMinimum (should must : List Value) :
    Value.Agree (BoolQuery.statedMinimum should must) (BoolQuery.statedMinimum should must) := by
  intro key
  unfold BoolQuery.statedMinimum
  rw [BoolQuery.lookup_conditional]
  split
  · exact .some rfl
  · exact .none

theorem equals_neutral_iff {cs ds : List Clause} {b c : Value}
    (hb : (grouped cs).neutral = .ok b) (hc : (grouped ds).neutral = .ok c) :
    b.equals c = true ↔ grouped cs = grouped ds := by
  rw [neutral_grouped] at hb hc
  cases hb
  cases hc
  have hempty : Value.Agree [] [] := fun _ => .none
  have hagree := agree_listed_iff Role.name_injective (fun role => (bodies cs role).map Body.leaf)
    (fun role => (bodies ds role).map Body.leaf) (fun _ => rfl) (fun _ => rfl) (x := []) (y := [])
  rw [List.append_nil, List.append_nil] at hagree
  rw [Value.equals_object_iff (nodup_keys_listed Role.name_injective)
    (nodup_keys_listed Role.name_injective), hagree, grouped_eq_iff, and_iff_left hempty]
  simp only [Value.equals_list_map_iff Body.equals_leaf_iff]

theorem equals_boolFields_iff {field : Text} {cs ds : List Clause} :
    (Value.object (boolFields field cs)).equals (.object (boolFields field ds)) = true ↔
      grouped cs = grouped ds := by
  rw [Value.equals_object_iff (nodup_keys_boolFields field cs) (nodup_keys_boolFields field ds),
    boolFields, boolFields, agree_listed_iff occurrence_injective _ _ (lookup_statedMinimum _ _)
    (lookup_statedMinimum _ _), grouped_eq_iff]
  simp only [fieldLeaves, Value.equals_list_map_iff (Body.equals_fieldLeaf_iff field)]
  rw [and_iff_left_iff_imp]
  intro h
  rw [h, h]
  exact agree_statedMinimum _ _

theorem equals_compiled_iff {backend : Backend} {cs ds : List Clause} {b c : Value}
    (hb : backend.compile (grouped cs) = .ok b) (hc : backend.compile (grouped ds) = .ok c) :
    b.equals c = true ↔ grouped cs = grouped ds := by
  cases backend with
  | neutral => exact equals_neutral_iff hb hc
  | elasticsearch field =>
    have hb' : BoolQuery.compile field (grouped cs) = .ok b := hb
    have hc' : BoolQuery.compile field (grouped ds) = .ok c := hc
    rw [compile_grouped_eq] at hb' hc'
    cases hb'
    cases hc'
    have hbool : ("bool" : Text) ≠ "match_all" := by decide
    by_cases hcs : cs = []
    · by_cases hds : ds = []
      · rw [if_pos hcs, if_pos hds, hcs, hds, Value.equals_singleton_iff]
        exact iff_of_true ⟨rfl, rfl⟩ rfl
      · have hne : grouped cs ≠ grouped ds := by
          rw [hcs, ne_eq, grouped_eq_iff]
          exact fun h => hds (bodies_eq_nil_iff.1 fun role => (h role).symm)
        rw [if_pos hcs, if_neg hds, Value.equals_singleton_iff]
        exact iff_of_false (fun h => hbool h.1) hne
    · by_cases hds : ds = []
      · have hne : grouped cs ≠ grouped ds := by
          rw [hds, ne_eq, grouped_eq_iff]
          exact fun h => hcs (bodies_eq_nil_iff.1 h)
        rw [if_neg hcs, if_pos hds, Value.equals_singleton_iff]
        exact iff_of_false (fun h => hbool h.1.symm) hne
      · rw [if_neg hcs, if_neg hds, Value.equals_singleton_iff, equals_boolFields_iff,
          and_iff_right rfl]

/-- A backend compiles two queries of clauses to the same body only if they are the same. -/
theorem compiled_eq_iff {backend : Backend} {cs ds : List Clause} {b c : Value}
    (hb : backend.compile (grouped cs) = .ok b) (hc : backend.compile (grouped ds) = .ok c) :
    b = c ↔ grouped cs = grouped ds := by
  constructor
  · rintro rfl
    apply Option.some.inj
    cases backend with
    | neutral => rw [← ofNeutral?_neutral_grouped hb, ← ofNeutral?_neutral_grouped hc]
    | elasticsearch field =>
      rw [← ofBoolQuery?_compile_grouped hb, ← ofBoolQuery?_compile_grouped hc]
  · intro h
    rw [h, hc] at hb
    cases hb
    rfl

/-- Queries of clauses are read back from either body, and texts have equal bodies exactly if they
have equal queries. -/
theorem compiled_reads_back :
    (∀ cs, ∃ q form, ofClauses cs = .ok q ∧ q.neutral = .ok form ∧ ofNeutral? form = some q) ∧
    (∀ cs field, ∃ q body, ofClauses cs = .ok q ∧ BoolQuery.compile field q = .ok body ∧
      ofBoolQuery? body = some q) ∧
    (∀ (backend : Backend) t u p q, Query.parse t = .ok p → Query.parse u = .ok q →
      ∃ b c, backend.compile p = .ok b ∧ backend.compile q = .ok c ∧
        (b.equals c = true ↔ p.equals q = true) ∧ (b = c ↔ p = q)) := by
  refine ⟨?_, ?_, ?_⟩
  · intro cs
    exact ⟨_, _, ofClauses_eq cs, neutral_grouped cs,
      ofNeutral?_neutral_grouped (neutral_grouped cs)⟩
  · intro cs field
    exact ⟨_, _, ofClauses_eq cs, compile_grouped_eq field cs,
      ofBoolQuery?_compile_grouped (compile_grouped_eq field cs)⟩
  · intro backend t u p q hp hq
    obtain ⟨cs, -, rfl⟩ := exists_grouped_of_parse hp
    obtain ⟨ds, -, rfl⟩ := exists_grouped_of_parse hq
    obtain ⟨b, hb⟩ := exists_compile_grouped cs backend
    obtain ⟨c, hc⟩ := exists_compile_grouped ds backend
    refine ⟨b, c, hb, hc, ?_, compiled_eq_iff hb hc⟩
    rw [equals_compiled_iff hb hc, equals_grouped_iff]

/-- Clauses whose texts are keys of the bodies they stand in, around one that is required. -/
def keyClauses (required : Body) : List Clause :=
  [⟨.optional, .term "match_all"⟩, ⟨.required, required⟩, ⟨.excluded, .term "match_phrase"⟩]

/-- The same clauses in other turns. -/
def turnedClauses (required : Body) : List Clause :=
  [⟨.excluded, .term "match_phrase"⟩, ⟨.optional, .term "match_all"⟩, ⟨.required, required⟩]

theorem wellFormed_keyClauses {required : Body} (h : required.WellFormed) :
    ∀ c ∈ keyClauses required, c.WellFormed := by
  have hall : Grammar.IsTerm "match_all" := by decide
  have hphrase : Grammar.IsTerm "match_phrase" := by decide
  intro c hc
  simp only [keyClauses, List.mem_cons, List.not_mem_nil, or_false] at hc
  rcases hc with rfl | rfl | rfl
  · exact hall
  · exact h
  · exact hphrase

theorem wellFormed_turnedClauses {required : Body} (h : required.WellFormed) :
    ∀ c ∈ turnedClauses required, c.WellFormed := by
  intro c hc
  apply wellFormed_keyClauses h
  simp only [turnedClauses, keyClauses, List.mem_cons] at hc ⊢
  tauto

theorem parse_written {cs : List Clause} (h : ∀ c ∈ cs, c.WellFormed) :
    Query.parse (Grammar.written cs) = .ok (grouped cs) :=
  Grammar.query_parse_of_clauses (Grammar.clauses_written h)

theorem compiled_reads_back_keys :
    (∃ p q, Query.parse (Grammar.written (keyClauses (.term "bool"))) = .ok p ∧
      Query.parse (Grammar.written (turnedClauses (.term "bool"))) = .ok q ∧
      ∃ b c, (Backend.elasticsearch "match").compile p = .ok b ∧
        (Backend.elasticsearch "match").compile q = .ok c ∧ b = c ∧ b.equals c = true) ∧
    ∃ p q, Query.parse (Grammar.written (keyClauses (.term "bool"))) = .ok p ∧
      Query.parse (Grammar.written (keyClauses (.phrase "bool"))) = .ok q ∧
      ∃ b c, Backend.neutral.compile p = .ok b ∧ Backend.neutral.compile q = .ok c ∧
        b.equals c = false := by
  have hterm : Body.WellFormed (.term "bool") := by
    have hbool : Grammar.IsTerm "bool" := by decide
    exact hbool
  have hphrase : Body.WellFormed (.phrase "bool") := ⟨["bool"], by decide, rfl⟩
  have hkey := parse_written (wellFormed_keyClauses hterm)
  have hturned := parse_written (wellFormed_turnedClauses hterm)
  have hother := parse_written (wellFormed_keyClauses hphrase)
  constructor
  · obtain ⟨b, c, hb, hc, hequals, heq⟩ := compiled_reads_back.2.2 (.elasticsearch "match")
      _ _ _ _ hkey hturned
    have hsame : grouped (keyClauses (.term "bool")) = grouped (turnedClauses (.term "bool")) := rfl
    exact ⟨_, _, hkey, hturned, b, c, hb, hc, heq.2 hsame,
      hequals.2 (equals_grouped_iff.2 hsame)⟩
  · obtain ⟨b, c, hb, hc, hequals, -⟩ := compiled_reads_back.2.2 .neutral _ _ _ _
      hkey hother
    have hne : grouped (keyClauses (.term "bool")) ≠ grouped (keyClauses (.phrase "bool")) := by
      intro h
      have hrequired := congrArg Query.required h
      cases hrequired
    refine ⟨_, _, hkey, hother, b, c, hb, hc, ?_⟩
    rw [← Bool.not_eq_true, hequals, equals_grouped_iff]
    exact hne

end Query
end SearchQuery
