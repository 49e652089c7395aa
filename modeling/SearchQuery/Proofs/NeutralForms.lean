import Mathlib.Data.List.Forall2
import SearchQuery.Backend.Registry
import SearchQuery.Proofs.BoolQueries

/-!
# Neutral forms and bool queries

Both backends say the same of a query, whatever it was put together from. They list what the items
look for, role by role, and write the list down in words of their own. A query with an item that is
no clause has neither form, and the first such item is the failure of both.
-/

namespace SearchQuery

/-- Steps that may fail, with their results changed one by one or all together. -/
theorem mapM_map_except {α β γ ε : Type} (f : α → Except ε β) (g : β → γ) (items : List α) :
    items.mapM (fun a => g <$> f a) = List.map g <$> items.mapM f := by
  induction items with
  | nil => rfl
  | cons a items ih => simp [List.mapM_cons, ih]

theorem Role.name_injective : Function.Injective Role.name := by
  intro r s h
  have hsome := congrArg Role.named? h
  rw [Role.named?_name, Role.named?_name] at hsome
  exact Option.some.inj hsome

namespace Item

def foreign? : Item → Option Value
  | .foreign value => some value
  | .clause _ | .marked _ _ => none

theorem body_eq_error {item : Item} {e : QueryError} :
    item.body = .error e ↔ ∃ value, item.foreign? = some value ∧ e = .unknownClause value := by
  cases item with
  | clause | marked => simp [body, foreign?]
  | foreign value => simp [body, foreign?, eq_comm]

theorem foreign?_of_body {item : Item} {b : Body} (h : item.body = .ok b) :
    item.foreign? = none := by
  cases item with
  | clause | marked => rfl
  | foreign => cases h

/-- Items have no bodies if one of them is no clause, and the first such item is to blame. -/
theorem mapM_body_eq_error {items : List Item} {e : QueryError} :
    items.mapM body = .error e ↔
      ∃ value, items.findSome? foreign? = some value ∧ e = .unknownClause value := by
  induction items with
  | nil =>
    constructor
    · intro h
      cases h
    · rintro ⟨value, h, -⟩
      cases h
  | cons item items ih =>
    rw [List.mapM_cons, List.findSome?_cons]
    cases hb : item.body with
    | error e' =>
      obtain ⟨value, hv, rfl⟩ := body_eq_error.1 hb
      rw [hv]
      change Except.error _ = Except.error e ↔ _
      simp [eq_comm]
    | ok b =>
      rw [foreign?_of_body hb]
      dsimp only
      rw [← ih]
      cases items.mapM body <;> simp [bind, Except.bind, pure, Except.pure]

theorem leaf_eq (item : Item) : item.leaf = Body.leaf <$> item.body := by
  cases item <;> rfl

theorem fieldLeaf_eq (field : Text) (item : Item) :
    BoolQuery.leaf field item = BoolQuery.fieldLeaf field <$> item.body := by
  cases item with
  | clause c => exact BoolQuery.leaf_clause field c
  | marked marker body => cases body <;> rfl
  | foreign => rfl

theorem mapM_leaf_eq (items : List Item) :
    items.mapM leaf = List.map Body.leaf <$> items.mapM body := by
  rw [← mapM_map_except, funext leaf_eq]

theorem mapM_fieldLeaf_eq (field : Text) (items : List Item) :
    items.mapM (BoolQuery.leaf field) =
      List.map (BoolQuery.fieldLeaf field) <$> items.mapM body := by
  rw [← mapM_map_except, funext (fieldLeaf_eq field)]

end Item

namespace Query

/-- The roles that have items, and what the items look for. -/
def parts (q : Query) : List Role → Except QueryError (List (Role × List Body))
  | [] => return []
  | role :: rest => do
    if (q.bucket role).isEmpty then q.parts rest
    else
      let bodies ← (q.bucket role).mapM Item.body
      let others ← q.parts rest
      return (role, bodies) :: others

variable {q : Query} {role : Role} {roles rest : List Role}

theorem parts_cons_of_nil (h : q.bucket role = []) : q.parts (role :: rest) = q.parts rest := by
  rw [parts, h]
  rfl

theorem parts_cons_of_ne_nil (h : q.bucket role ≠ []) :
    q.parts (role :: rest) = (do
      let bodies ← (q.bucket role).mapM Item.body
      let others ← q.parts rest
      return (role, bodies) :: others) := by
  rw [parts, if_neg (by simpa using h)]

/-- The parts hold what all items of the roles look for. -/
theorem flatMap_parts (q : Query) (roles : List Role) :
    List.flatMap Prod.snd <$> q.parts roles = (roles.flatMap q.bucket).mapM Item.body := by
  induction roles with
  | nil => rfl
  | cons role rest ih =>
    rw [List.flatMap_cons]
    by_cases hb : q.bucket role = []
    · rw [parts_cons_of_nil hb, hb, ih, List.nil_append]
    · rw [parts_cons_of_ne_nil hb, List.mapM_append, ← ih]
      simp

theorem parts_eq_error {e : QueryError} :
    q.parts Role.all = .error e ↔
      ∃ value, q.items.findSome? Item.foreign? = some value ∧ e = .unknownClause value := by
  rw [← Item.mapM_body_eq_error, items, ← flatMap_parts]
  cases q.parts Role.all <;> simp [Functor.map, Except.map]

/-- The parts are those of the roles that have items, in order. -/
theorem roles_of_parts {ps : List (Role × List Body)} (h : q.parts roles = .ok ps) :
    ps.map Prod.fst = roles.filter fun role => !(q.bucket role).isEmpty := by
  induction roles generalizing ps with
  | nil =>
    cases h
    rfl
  | cons role rest ih =>
    by_cases hb : q.bucket role = []
    · rw [parts_cons_of_nil hb] at h
      simp [ih h, hb]
    · rw [parts_cons_of_ne_nil hb] at h
      cases hm : (q.bucket role).mapM Item.body with
      | error e =>
        rw [hm] at h
        cases h
      | ok bodies =>
        cases hr : q.parts rest with
        | error e =>
          rw [hm, hr] at h
          cases h
        | ok others =>
          rw [hm, hr] at h
          cases h
          simp [ih hr, hb]

def neutralField (part : Role × List Body) : Text × Value :=
  (part.1.name, .list (part.2.map Body.leaf))

theorem neutralEntry_of_ne_nil (h : q.bucket role ≠ []) :
    q.neutralEntry role = (fun bodies => [neutralField (role, bodies)]) <$>
      (q.bucket role).mapM Item.body := by
  rw [neutralEntry, if_neg (by simpa using h), Item.mapM_leaf_eq]
  simp [neutralField]

theorem flatten_neutralEntries (q : Query) (roles : List Role) :
    List.flatten <$> roles.mapM q.neutralEntry = List.map neutralField <$> q.parts roles := by
  induction roles with
  | nil => rfl
  | cons role rest ih =>
    by_cases hb : q.bucket role = []
    · have hentry : q.neutralEntry role = pure [] := by
        rw [neutralEntry, hb]
        rfl
      rw [parts_cons_of_nil hb, ← ih]
      simp [List.mapM_cons, hentry]
    · calc
        _ = (do
              let bodies ← (q.bucket role).mapM Item.body
              (fun fields => neutralField (role, bodies) :: fields) <$>
                (List.flatten <$> rest.mapM q.neutralEntry)) := by
          simp [List.mapM_cons, neutralEntry_of_ne_nil hb]
        _ = (do
              let bodies ← (q.bucket role).mapM Item.body
              (fun fields => neutralField (role, bodies) :: fields) <$>
                (List.map neutralField <$> q.parts rest)) := by rw [ih]
        _ = _ := by simp [parts_cons_of_ne_nil hb]

theorem neutral_eq_parts (q : Query) :
    q.neutral = (fun ps => .object (ps.map neutralField)) <$> q.parts Role.all := by
  calc
    _ = Value.object <$> (List.flatten <$> Role.all.mapM q.neutralEntry) := by simp [neutral]
    _ = _ := by rw [flatten_neutralEntries, Functor.map_map]

end Query

namespace BoolQuery

def occurrence : Role → Text
  | .optional => "should"
  | .required => "must"
  | .excluded => "must_not"

theorem occurrences_eq : occurrences = Role.all.map fun role => (occurrence role, role) := rfl

def boolField (field : Text) (part : Role × List Body) : Text × Value :=
  (occurrence part.1, .list (part.2.map (fieldLeaf field)))

theorem occurrenceFields_cons_of_ne_nil {q : Query} {role : Role} (field key : Text)
    (rest : List (Text × Role)) (h : q.bucket role ≠ []) :
    occurrenceFields field q ((key, role) :: rest) = (do
      let leaves ← (q.bucket role).mapM (leaf field)
      let fields ← occurrenceFields field q rest
      return (key, .list leaves) :: fields) := by
  rw [occurrenceFields]
  split
  case h_1 hb => exact absurd hb h
  case h_2 => rfl

theorem occurrenceFields_eq_parts (field : Text) (q : Query) (roles : List Role) :
    occurrenceFields field q (roles.map fun role => (occurrence role, role)) =
      List.map (boolField field) <$> q.parts roles := by
  induction roles with
  | nil => rfl
  | cons role rest ih =>
    rw [List.map_cons]
    by_cases hb : q.bucket role = []
    · rw [Query.parts_cons_of_nil hb, ← ih, occurrenceFields, hb]
    · rw [Query.parts_cons_of_ne_nil hb, occurrenceFields_cons_of_ne_nil _ _ _ hb, ih,
        Item.mapM_fieldLeaf_eq]
      simp [boolField]

theorem parts_eq_nil_iff {q : Query} {ps : List (Role × List Body)}
    (h : q.parts Role.all = .ok ps) : ps = [] ↔ q.isEmpty = true := by
  rw [← List.map_eq_nil_iff, Query.roles_of_parts h]
  simp [Role.all, Query.bucket, Query.isEmpty, and_assoc]

/-! ## From the one form to the other -/

/-- A leaf of a neutral form, and the leaf on a field that says the same. -/
inductive LeafOn (field : Text) : Value → Value → Prop
  | term (t : Text) :
      LeafOn field (.object [("match", .text t)])
        (.object [("match", .object [(field, .text t)])])
  | phrase (p : Text) :
      LeafOn field (.object [("match_phrase", .text p)])
        (.object [("match_phrase", .object [(field, .text p)])])

/-- An entry of a neutral form, and the entry of a bool query that says the same. -/
inductive EntryOn (field : Text) : Text × Value → Text × Value → Prop
  | optional {ls ms} : List.Forall₂ (LeafOn field) ls ms →
      EntryOn field ("optional", .list ls) ("should", .list ms)
  | required {ls ms} : List.Forall₂ (LeafOn field) ls ms →
      EntryOn field ("required", .list ls) ("must", .list ms)
  | excluded {ls ms} : List.Forall₂ (LeafOn field) ls ms →
      EntryOn field ("excluded", .list ls) ("must_not", .list ms)

/-- The number that is stated after entries with these keys. -/
def minimumAfter (keys : List Text) : List (Text × Value) :=
  if keys.contains "optional" && !keys.contains "required" then
    [("minimum_should_match", .int 1)]
  else []

theorem leafOn (field : Text) (b : Body) : LeafOn field b.leaf (fieldLeaf field b) := by
  cases b with
  | term t => exact .term t
  | phrase p => exact .phrase p

theorem entryOn (field : Text) (part : Role × List Body) :
    EntryOn field (Query.neutralField part) (boolField field part) := by
  obtain ⟨role, bodies⟩ := part
  have hleaves : List.Forall₂ (LeafOn field) (bodies.map Body.leaf)
      (bodies.map (fieldLeaf field)) := by
    simp [leafOn]
  cases role with
  | optional => exact .optional hleaves
  | required => exact .required hleaves
  | excluded => exact .excluded hleaves

/-- A bool query states a number exactly if its neutral form has optional leaves alone. -/
theorem minimum_eq {q : Query} {ps : List (Role × List Body)} (h : q.parts Role.all = .ok ps) :
    minimum q = minimumAfter ((ps.map Query.neutralField).map Prod.fst) := by
  have hkeys : (ps.map Query.neutralField).map Prod.fst =
      (Role.all.filter fun role => !(q.bucket role).isEmpty).map Role.name := by
    rw [← Query.roles_of_parts h, List.map_map, List.map_map]
    rfl
  have hcontains (role : Role) :
      ((ps.map Query.neutralField).map Prod.fst).contains role.name =
        !(q.bucket role).isEmpty := by
    rw [Bool.eq_iff_iff, List.contains_iff_mem, hkeys,
      List.mem_map_of_injective Role.name_injective]
    simp [Role.mem_all]
  have hoptional : ((ps.map Query.neutralField).map Prod.fst).contains "optional" =
      !q.optional.isEmpty := hcontains .optional
  have hrequired : ((ps.map Query.neutralField).map Prod.fst).contains "required" =
      !q.required.isEmpty := hcontains .required
  rw [minimum, minimumAfter, hoptional, hrequired, Bool.not_not, Bool.and_comm]

theorem occurrenceFields_all (field : Text) (q : Query) :
    occurrenceFields field q occurrences = List.map (boolField field) <$> q.parts Role.all := by
  rw [occurrences_eq, occurrenceFields_eq_parts]

theorem compile_of_parts {q : Query} {ps : List (Role × List Body)} (field : Text)
    (h : q.parts Role.all = .ok ps) :
    compile field q = .ok (if ps = [] then .object [("match_all", .object [])]
      else .object [("bool", .object (ps.map (boolField field) ++ minimum q))]) := by
  rw [compile, occurrenceFields_all, h]
  by_cases hps : ps = []
  · rw [if_pos hps, if_pos ((parts_eq_nil_iff h).1 hps)]
    rfl
  · rw [if_neg hps, if_neg (mt (parts_eq_nil_iff h).2 hps)]
    rfl

theorem compile_of_error {q : Query} {e : QueryError} (field : Text)
    (h : q.parts Role.all = .error e) : compile field q = .error e := by
  have hne : ¬ q.isEmpty = true := by
    intro hempty
    rw [Query.isEmpty_iff.1 hempty] at h
    cases h
  rw [compile, occurrenceFields_all, h, if_neg hne]
  rfl

theorem compile_eq_error {q : Query} {e : QueryError} (field : Text) :
    compile field q = .error e ↔ q.parts Role.all = .error e := by
  constructor
  · intro h
    cases hp : q.parts Role.all with
    | error e' =>
      rw [compile_of_error field hp] at h
      cases h
      rfl
    | ok ps =>
      rw [compile_of_parts field hp] at h
      cases h
  · exact compile_of_error field

end BoolQuery

namespace Query

theorem neutral_eq_error {q : Query} {e : QueryError} :
    q.neutral = .error e ↔ q.parts Role.all = .error e := by
  rw [neutral_eq_parts]
  cases q.parts Role.all <;> simp [Functor.map, Except.map]

theorem neutral_eq_ok {q : Query} {form : Value} (h : q.neutral = .ok form) :
    ∃ ps, q.parts Role.all = .ok ps ∧ form = .object (ps.map neutralField) := by
  rw [neutral_eq_parts] at h
  cases hp : q.parts Role.all with
  | error e =>
    rw [hp] at h
    cases h
  | ok ps =>
    rw [hp] at h
    cases h
    exact ⟨ps, rfl, rfl⟩

theorem exists_parts {q : Query} (h : q.items.findSome? Item.foreign? = none) :
    ∃ ps, q.parts Role.all = .ok ps := by
  cases hp : q.parts Role.all with
  | ok ps => exact ⟨ps, rfl⟩
  | error e =>
    obtain ⟨value, hvalue, -⟩ := parts_eq_error.1 hp
    rw [h] at hvalue
    cases hvalue

theorem exists_compile_grouped (cs : List Clause) (backend : Backend) :
    ∃ body, backend.compile (grouped cs) = .ok body := by
  have hnone : (grouped cs).items.findSome? Item.foreign? = none := by
    simp [items_grouped, Item.foreign?]
  obtain ⟨ps, hp⟩ := exists_parts hnone
  cases backend with
  | neutral =>
    refine ⟨.object (ps.map neutralField), ?_⟩
    rw [Backend.compile, neutral_eq_parts, hp]
    rfl
  | elasticsearch field => exact ⟨_, BoolQuery.compile_of_parts field hp⟩

/-- Both backends fail alike, at the first item that is no clause, and a query that has a neutral
form has the bool query that the neutral form spells. -/
theorem neutral_boolQuery (q : Query) (field : Text) :
    (∀ e, q.neutral = .error e ↔ BoolQuery.compile field q = .error e) ∧
    (∀ e, q.neutral = .error e ↔
      ∃ value, q.items.findSome? Item.foreign? = some value ∧ e = .unknownClause value) ∧
    (∀ form, q.neutral = .ok form → ∃ entries, form = .object entries ∧
      (entries = [] →
        BoolQuery.compile field q = .ok (.object [("match_all", .object [])])) ∧
      (entries ≠ [] → ∃ fields, List.Forall₂ (BoolQuery.EntryOn field) entries fields ∧
        BoolQuery.compile field q =
          .ok (.object [("bool", .object
            (fields ++ BoolQuery.minimumAfter (entries.map Prod.fst)))]))) := by
  refine ⟨?_, ?_, ?_⟩
  · intro e
    rw [neutral_eq_error, BoolQuery.compile_eq_error]
  · intro e
    rw [neutral_eq_error, parts_eq_error]
  · intro form h
    obtain ⟨ps, hp, rfl⟩ := neutral_eq_ok h
    refine ⟨ps.map neutralField, rfl, ?_, ?_⟩
    · intro hempty
      rw [BoolQuery.compile_of_parts field hp, if_pos (List.map_eq_nil_iff.1 hempty)]
    · intro hne
      refine ⟨ps.map (BoolQuery.boolField field), ?_, ?_⟩
      · simp [BoolQuery.entryOn]
      · rw [BoolQuery.compile_of_parts field hp, if_neg (mt List.map_eq_nil_iff.2 hne),
          BoolQuery.minimum_eq hp]

/-- A query put together by hand: no item stands in the bucket of its own role. -/
def strayQuery : Query where
  optional := [.marked .null (.term "a"), .clause ⟨.excluded, .phrase "b c"⟩]
  required := []
  excluded := [.clause ⟨.required, .term "d"⟩]

def strayForm : Value :=
  .object [
    ("optional", .list [.object [("match", .text "a")], .object [("match_phrase", .text "b c")]]),
    ("excluded", .list [.object [("match", .text "d")]])]

theorem neutral_boolQuery_stray :
    strayQuery.neutral = .ok strayForm ∧
    ∃ entries, strayForm = .object entries ∧ entries ≠ [] ∧
      ∃ fields, List.Forall₂ (BoolQuery.EntryOn "title") entries fields ∧
        BoolQuery.compile "title" strayQuery =
          .ok (.object [("bool", .object
            (fields ++ BoolQuery.minimumAfter (entries.map Prod.fst)))]) := by
  have hform : strayQuery.neutral = .ok strayForm := rfl
  obtain ⟨entries, hentries, -, hbool⟩ := (neutral_boolQuery strayQuery "title").2.2 strayForm hform
  have hne : entries ≠ [] := by
    rintro rfl
    cases hentries
  exact ⟨hform, entries, hentries, hne, hbool hne⟩

end Query
end SearchQuery
