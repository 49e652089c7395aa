import Mathlib.Data.List.Basic
import SearchQuery.Proofs.Overlays

/-!
# Overlays along paths

A path of keys leads from a mapping into the mappings below it. Where it leads in an overlay is
said by where it leads in the two mappings: what the upper one has there counts, whatever is no
mapping in the upper one hides what lies below it, and of what the upper one does not speak the
lower one does. Keys keep the order in which they were first set, at every level.
-/

namespace SearchQuery

open Scalar

namespace Value

def isMap : Value → Bool
  | .map _ => true
  | _ => false

theorem isMap_iff {v : Value} : v.isMap = true ↔ ∃ entries, v = .map entries := by
  cases v <;> simp [isMap]

/-- Where a path leads. Only mappings are entered, and the empty path stays where it is. -/
def at? : List Scalar → Value → Option Value
  | [], v => some v
  | key :: path, .map entries => (Entries.get? key entries).bind (at? path)
  | _ :: _, _ => none

/-- The entries of a mapping that may be there. -/
def entriesOf : Option Value → Entries
  | some (.map entries) => entries
  | _ => []

@[simp] theorem at?_nil (v : Value) : at? [] v = some v := by
  rw [at?]

@[simp] theorem at?_cons_map (key : Scalar) (path : List Scalar) (entries : Entries) :
    at? (key :: path) (.map entries) = (Entries.get? key entries).bind (at? path) := by
  rw [at?]

theorem at?_of_not_isMap {path : List Scalar} {v : Value} (hpath : path ≠ [])
    (hv : v.isMap = false) : at? path v = none := by
  cases path with
  | nil => exact absurd rfl hpath
  | cons key path => cases v <;> first | rfl | cases hv

/-- Only a mapping leads to a mapping. -/
theorem isMap_of_at? {path : List Scalar} {v : Value} {inner : Entries}
    (h : at? path v = some (.map inner)) : v.isMap = true := by
  cases hmap : v.isMap with
  | true => rfl
  | false =>
    cases path with
    | nil =>
      rw [at?_nil] at h
      cases h
      cases hmap
    | cons key path =>
      rw [at?_of_not_isMap (List.cons_ne_nil key path) hmap] at h
      cases h

theorem at?_append (p q : List Scalar) (v : Value) :
    at? (p ++ q) v = (at? p v).bind (at? q) := by
  induction p generalizing v with
  | nil => simp
  | cons key p ih =>
    cases v with
    | map entries =>
      cases h : Entries.get? key entries with
      | none => simp [h]
      | some w => simp [h, ih]
    | _ => rfl

theorem Keyed.at? {path : List Scalar} {v w : Value} (hv : v.Keyed) (h : at? path v = some w) :
    w.Keyed := by
  induction path generalizing v with
  | nil =>
    rw [at?_nil] at h
    cases h
    exact hv
  | cons key path ih =>
    cases v with
    | map entries =>
      rw [at?_cons_map, Option.bind_eq_some_iff] at h
      obtain ⟨u, hu, hw⟩ := h
      exact ih (hv.of_get? hu) hw
    | _ => cases h

theorem entriesOf_eq_nil {o : Option Value} (h : ∀ entries, o ≠ some (.map entries)) :
    entriesOf o = [] := by
  unfold entriesOf
  split
  case h_1 entries => exact absurd rfl (h entries)
  case h_2 => rfl

/-- A path leads through what may be there in the same way as through its entries. -/
theorem at?_entriesOf {path : List Scalar} (h : path ≠ []) (o : Option Value) :
    at? path (.map (entriesOf o)) = o.bind (at? path) := by
  obtain ⟨key, rest, rfl⟩ := List.exists_cons_of_ne_nil h
  cases o with
  | none => simp [entriesOf]
  | some v =>
    cases hmap : v.isMap with
    | true =>
      obtain ⟨entries, rfl⟩ := isMap_iff.1 hmap
      rfl
    | false =>
      have hentries : entriesOf (some v) = [] := entriesOf_eq_nil fun entries he => by
        cases he
        cases hmap
      rw [hentries, Option.bind_some, at?_of_not_isMap h hmap]
      simp

theorem entriesOf_at? (path : List Scalar) (o : Option Value) :
    entriesOf (at? path (.map (entriesOf o))) = entriesOf (o.bind (at? path)) := by
  cases path with
  | nil => cases o <;> simp [entriesOf]
  | cons key path => rw [at?_entriesOf (List.cons_ne_nil key path)]

end Value

namespace Entries

theorem distinctKeys_iff {entries : Entries} :
    entries.DistinctKeys ↔ (keys entries).Pairwise fun j k => ¬ SameKey j k := by
  rw [keys, List.pairwise_map]
  rfl

/-- Keys of the lower entries stay where they are; new ones follow in their order. -/
theorem keys_overlay {upper : Entries} (h : upper.DistinctKeys) (lower : Entries) :
    keys (overlay lower upper) =
      keys lower ++ (keys upper).filter fun k => (get? k lower).isNone := by
  induction upper generalizing lower with
  | nil => simp [keys]
  | cons entry rest ih =>
    obtain ⟨key, value⟩ := entry
    obtain ⟨hkey, hrest⟩ := List.pairwise_cons.1 h
    -- no later key is this one, so that what is put here does not make one of them old
    have hlater : ∀ k ∈ keys rest, get? k (put key (Value.overlay (get? key lower) value) lower) =
        get? k lower := by
      intro k hk
      obtain ⟨e, he, rfl⟩ := List.mem_map.1 hk
      rw [get?_put, if_neg (hkey e he)]
    have hfilter : ((keys rest).filter fun k =>
        (get? k (put key (Value.overlay (get? key lower) value) lower)).isNone) =
          (keys rest).filter fun k => (get? k lower).isNone :=
      List.filter_congr fun k hk => by rw [hlater k hk]
    have hkeys : keys ((key, value) :: rest) = key :: keys rest := rfl
    rw [overlay_cons, ih hrest, keys_put, hfilter, hkeys, List.filter_cons, List.append_assoc]
    cases get? key lower <;> rfl

theorem distinctKeys_overlay {lower upper : Entries} (hl : lower.DistinctKeys)
    (hu : upper.DistinctKeys) : (overlay lower upper).DistinctKeys := by
  rw [distinctKeys_iff] at hl
  rw [distinctKeys_iff, keys_overlay hu, List.pairwise_append]
  refine ⟨hl, (distinctKeys_iff.1 hu).filter _, ?_⟩
  intro j hj k hk
  obtain ⟨-, hnew⟩ := List.mem_filter.1 hk
  exact get?_eq_none_iff.1 (Option.isNone_iff_eq_none.1 hnew) j hj

/-- Entries over nothing stand as they are. -/
theorem nil_overlay {upper : Entries} (h : upper.DistinctKeys) : overlay [] upper = upper := by
  suffices hlower : ∀ lower : Entries, (lower ++ upper).DistinctKeys →
      overlay lower upper = lower ++ upper from hlower [] h
  clear h
  induction upper with
  | nil => intro lower _; simp
  | cons entry rest ih =>
    intro lower h
    obtain ⟨key, value⟩ := entry
    have hnone : get? key lower = none := by
      rw [get?_eq_none_iff]
      intro k hk
      obtain ⟨e, he, rfl⟩ := List.mem_map.1 hk
      exact (List.pairwise_append.1 h).2.2 e he (key, value) (by simp)
    have hvalue : Value.overlay none value = value :=
      Value.overlay_of_ne_map fun l u hmap => nomatch hmap.1
    rw [overlay_cons, hnone, hvalue, put_of_get?_eq_none hnone, ih, List.append_assoc]
    · rfl
    · rwa [List.append_assoc]

end Entries

namespace Value

/-- A mapping lies over the entries of what may be there. -/
theorem overlay_map_eq {upper : Entries} (h : upper.DistinctKeys) (lower : Option Value) :
    overlay lower (.map upper) = .map ((entriesOf lower).overlay upper) := by
  by_cases hl : ∃ l, lower = some (.map l)
  · obtain ⟨l, rfl⟩ := hl
    exact overlay_map l upper
  · rw [entriesOf_eq_nil fun l he => hl ⟨l, he⟩, Entries.nil_overlay h]
    exact overlay_of_ne_map fun l u hmap => hl ⟨l, hmap.1⟩

theorem overlay_of_not_isMap {upper : Value} (h : upper.isMap = false) (lower : Option Value) :
    overlay lower upper = upper :=
  overlay_of_ne_map fun l u hmap => by
    rw [hmap.2] at h
    cases h

/-- One step into an overlay. -/
theorem at?_cons_overlay {upper : Entries} (h : upper.DistinctKeys) (lower : Entries) (key : Scalar)
    (path : List Scalar) :
    at? (key :: path) (.map (lower.overlay upper)) =
      match upper.get? key with
      | none => at? (key :: path) (.map lower)
      | some v => at? path (overlay (lower.get? key) v) := by
  rw [at?_cons_map, at?_cons_map, Entries.get?_overlay h]
  cases upper.get? key <;> rfl

variable {upper : Entries} {p : List Scalar}

/-- Where the upper mapping has no mapping but something else, the overlay has the same. -/
theorem at?_overlay_of_not_isMap (h : (Value.map upper).Keyed) (lower : Entries) {v : Value}
    (hv : v.isMap = false) (hp : at? p (.map upper) = some v) :
    at? p (.map (lower.overlay upper)) = some v := by
  induction p generalizing upper lower with
  | nil =>
    rw [at?_nil] at hp
    cases hp
    cases hv
  | cons key path ih =>
    rw [at?_cons_map, Option.bind_eq_some_iff] at hp
    obtain ⟨w, hw, hpath⟩ := hp
    rw [at?_cons_overlay h.distinctKeys, hw]
    dsimp only
    cases hmap : w.isMap with
    | false => rw [overlay_of_not_isMap hmap, hpath]
    | true =>
      obtain ⟨inner, rfl⟩ := isMap_iff.1 hmap
      have hinner := h.of_get? hw
      rw [overlay_map_eq hinner.distinctKeys]
      exact ih hinner _ hpath

/-- Nothing lies below what is no mapping in the upper one. -/
theorem at?_overlay_below (h : (Value.map upper).Keyed) (lower : Entries) {q : List Scalar}
    {v : Value} (hq : q ≠ []) (hv : v.isMap = false) (hp : at? p (.map upper) = some v) :
    at? (p ++ q) (.map (lower.overlay upper)) = none := by
  rw [at?_append, at?_overlay_of_not_isMap h lower hv hp]
  exact at?_of_not_isMap hq hv

/-- Of what the upper mapping neither has nor hides the lower one speaks. -/
theorem at?_overlay_of_none (h : (Value.map upper).Keyed) (lower : Entries)
    (hp : at? p (.map upper) = none)
    (hopen : ∀ q v, q <+: p → at? q (.map upper) = some v → v.isMap = true) :
    at? p (.map (lower.overlay upper)) = at? p (.map lower) := by
  induction p generalizing upper lower with
  | nil =>
    rw [at?_nil] at hp
    cases hp
  | cons key path ih =>
    rw [at?_cons_overlay h.distinctKeys]
    cases hw : upper.get? key with
    | none => rfl
    | some w =>
      have hstep : ∀ q, at? (key :: q) (.map upper) = at? q w := fun q => by
        rw [at?_cons_map, hw, Option.bind_some]
      have hmap : w.isMap = true :=
        hopen [key] w (List.prefix_append [key] path) (by rw [hstep, at?_nil])
      obtain ⟨inner, rfl⟩ := isMap_iff.1 hmap
      have hinner := h.of_get? hw
      have hpath : path ≠ [] := by
        rintro rfl
        rw [hstep, at?_nil] at hp
        cases hp
      dsimp only
      rw [overlay_map_eq hinner.distinctKeys, ih hinner, at?_entriesOf hpath, at?_cons_map]
      · rw [← hstep, hp]
      · intro q v hq hv
        rw [← hstep] at hv
        exact hopen (key :: q) v (List.cons_prefix_cons.2 ⟨rfl, hq⟩) hv

/-- Where the upper mapping has a mapping, the overlay has that one laid over what the lower mapping
has there. -/
theorem at?_overlay_of_map (h : (Value.map upper).Keyed) (lower : Entries) {inner : Entries}
    (hp : at? p (.map upper) = some (.map inner)) :
    at? p (.map (lower.overlay upper)) =
      some (.map ((entriesOf (at? p (.map lower))).overlay inner)) := by
  induction p generalizing upper lower with
  | nil =>
    rw [at?_nil] at hp
    cases hp
    rfl
  | cons key path ih =>
    rw [at?_cons_map, Option.bind_eq_some_iff] at hp
    obtain ⟨w, hw, hpath⟩ := hp
    obtain ⟨below, rfl⟩ := isMap_iff.1 (isMap_of_at? hpath)
    have hbelow := h.of_get? hw
    rw [at?_cons_overlay h.distinctKeys, hw]
    dsimp only
    rw [overlay_map_eq hbelow.distinctKeys, ih hbelow _ hpath, entriesOf_at?,
      at?_cons_map]

/-- An overlay is read path by path. What is no mapping in the upper mapping counts there and hides
what lies below it; what the upper mapping neither has nor hides is that of the lower one; and where
the upper mapping has a mapping, there is again an overlay, of that one over what the lower mapping
has there. Where both have a mapping the lower keys come first and the new ones behind them, each
once. -/
theorem overlay_along_paths {lower upper : Entries} (hl : (Value.map lower).Keyed)
    (hu : (Value.map upper).Keyed) (p : List Scalar) :
    (∀ v, at? p (.map upper) = some v → v.isMap = false →
      at? p (.map (lower.overlay upper)) = some v) ∧
    (∀ q v, q <+: p → q ≠ p → at? q (.map upper) = some v → v.isMap = false →
      at? p (.map (lower.overlay upper)) = none) ∧
    (at? p (.map upper) = none →
      (∀ q v, q <+: p → at? q (.map upper) = some v → v.isMap = true) →
      at? p (.map (lower.overlay upper)) = at? p (.map lower)) ∧
    (∀ u, at? p (.map upper) = some (.map u) →
      at? p (.map (lower.overlay upper)) =
        some (.map ((entriesOf (at? p (.map lower))).overlay u))) ∧
    ∀ l u : Entries, at? p (.map lower) = some (.map l) → at? p (.map upper) = some (.map u) →
      ∃ m : Entries, at? p (.map (lower.overlay upper)) = some (.map m) ∧ m.DistinctKeys ∧
        m.keys = l.keys ++ u.keys.filter fun k => (l.get? k).isNone := by
  refine ⟨fun v hp hv => at?_overlay_of_not_isMap hu lower hv hp, ?_, at?_overlay_of_none hu lower,
    fun u hp => at?_overlay_of_map hu lower hp, ?_⟩
  · rintro q v ⟨r, rfl⟩ hne hq hv
    have hr : r ≠ [] := by
      rintro rfl
      exact hne (List.append_nil q).symm
    exact at?_overlay_below hu lower hr hv hq
  · intro l u hlower hupper
    have hkeys := (hl.at? hlower).distinctKeys
    have hnew := (hu.at? hupper).distinctKeys
    have hoverlay := at?_overlay_of_map hu lower hupper
    rw [hlower] at hoverlay
    exact ⟨l.overlay u, hoverlay, Entries.distinctKeys_overlay hkeys hnew,
      Entries.keys_overlay hnew l⟩

/-- A mapping under a number and a text beside it. -/
def numberedEntries : Entries :=
  [(.int 1, .object [("a", .int 0), ("b", .object [("x", .null)])]), (.text "s", .text "t")]

/-- A mapping under a truth value that is the same key as the number, and one over the text. -/
def markedEntries : Entries :=
  [(.text "s", .object [("u", .null)]), (.bool true, .object [("c", .object []), ("b", .int 2)])]

theorem keyed_numberedEntries : (Value.map numberedEntries).Keyed := by
  refine .map (by decide) fun e he => ?_
  rcases List.mem_pair.1 he with rfl | rfl
  · refine .map (by decide) fun f hf => ?_
    rcases List.mem_pair.1 hf with rfl | rfl
    · exact .scalar _
    · exact .map (by decide) fun g hg => List.mem_singleton.1 hg ▸ .scalar _
  · exact .scalar _

theorem keyed_markedEntries : (Value.map markedEntries).Keyed := by
  refine .map (by decide) fun e he => ?_
  rcases List.mem_pair.1 he with rfl | rfl
  · exact .map (by decide) fun f hf => List.mem_singleton.1 hf ▸ .scalar _
  · refine .map (by decide) fun f hf => ?_
    rcases List.mem_pair.1 hf with rfl | rfl
    · exact .map (by decide) fun g hg => nomatch hg
    · exact .scalar _

theorem overlay_along_paths_equal_keys :
    (∃ m : Entries, at? [.int 1] (.map (numberedEntries.overlay markedEntries)) = some (.map m) ∧
      m.DistinctKeys ∧ m.keys = [.text "a", .text "b", .text "c"]) ∧
    at? [.bool true, .text "b"] (.map (numberedEntries.overlay markedEntries)) = some (.int 2) ∧
    at? [.int 1, .text "b", .text "x"] (.map (numberedEntries.overlay markedEntries)) = none ∧
    at? [.int 1, .text "a"] (.map (numberedEntries.overlay markedEntries)) = some (.int 0) ∧
    at? [.text "s"] (.map (numberedEntries.overlay markedEntries)) =
      some (.object [("u", .null)]) := by
  have hpaths := overlay_along_paths keyed_numberedEntries keyed_markedEntries
  refine ⟨?_, ?_, ?_, ?_, ?_⟩
  · exact (hpaths [.int 1]).2.2.2.2 _ _ rfl rfl
  · exact (hpaths [.bool true, .text "b"]).1 (.int 2) rfl rfl
  · exact (hpaths [.int 1, .text "b", .text "x"]).2.1 [.int 1, .text "b"] (.int 2)
      (by decide) (by decide) rfl rfl
  · refine (hpaths [.int 1, .text "a"]).2.2.1 rfl ?_
    intro q v hq hv
    rcases List.prefix_cons_iff.1 hq with rfl | ⟨r, rfl, hr⟩
    · cases hv
      rfl
    · rcases List.prefix_cons_iff.1 hr with rfl | ⟨t, rfl, ht⟩
      · cases hv
        rfl
      · rw [List.prefix_nil.1 ht] at hv
        cases hv
  · exact (hpaths [.text "s"]).2.2.2.1 _ rfl

end Value
end SearchQuery
