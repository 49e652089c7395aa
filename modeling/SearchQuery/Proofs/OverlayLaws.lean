import SearchQuery.Proofs.OverlayPaths

/-!
# Laws of overlays

Nothing changes where nothing is laid over a mapping or a mapping over nothing, and what lies on top
can be laid over again; so a mapping over itself is that mapping. Of three mappings it does not
matter which two are laid over each other first, unless somewhere what is no mapping stands between
two mappings: laid over the lower one first, it hides it.

Mappings that are the same here have the same keys in the same order and spelling. For that a key
has to lead to its entry, so none may be a number that equals nothing.
-/

namespace SearchQuery

open Scalar

namespace Entries

/-- Every key leads to one entry: none is set twice, and each equals itself. -/
structure ProperKeys (entries : Entries) : Prop where
  distinct : entries.DistinctKeys
  findable : Scalar.nan ∉ keys entries

variable {a b c lower upper : Entries}

theorem ProperKeys.get?_of_mem (h : a.ProperKeys) {key : Scalar} {v : Value}
    (hmem : (key, v) ∈ a) : get? key a = some v := by
  obtain ⟨hdistinct, hfindable⟩ := h
  induction a with
  | nil => cases hmem
  | cons entry rest ih =>
    obtain ⟨hkey, hrest⟩ := List.pairwise_cons.1 hdistinct
    rcases List.mem_cons.1 hmem with rfl | hmem
    · have hself : SameKey key key :=
        sameKey_self_iff.2 fun hnan => hfindable (by simp [keys, hnan])
      rw [get?, if_pos hself]
    · have hrest := ih hmem hrest fun hnan => hfindable (List.mem_cons_of_mem _ hnan)
      rw [get?, if_neg (hkey _ hmem), hrest]

/-- Entries are known from their keys in order and what they say under each. -/
theorem ProperKeys.eq_of_get? (ha : a.ProperKeys) (hb : b.ProperKeys) (hkeys : keys a = keys b)
    (hget : ∀ k, get? k a = get? k b) : a = b := by
  have hread : ∀ {e : Entries}, e.ProperKeys →
      e = (keys e).filterMap fun k => (get? k e).map fun v => (k, v) := by
    intro e he
    have hentry : ∀ entry ∈ e, (get? entry.1 e).map (fun v => (entry.1, v)) = some entry := by
      rintro ⟨key, v⟩ hmem
      rw [he.get?_of_mem hmem]
      rfl
    rw [keys, List.filterMap_map]
    exact (List.filterMap_some (l := e)).symm.trans
      (List.filterMap_congr fun entry hmem => (hentry entry hmem).symm)
  rw [hread ha, hread hb, hkeys]
  simp only [hget]

theorem ProperKeys.overlay (hl : lower.ProperKeys) (hu : upper.ProperKeys) :
    (Entries.overlay lower upper).ProperKeys where
  distinct := distinctKeys_overlay hl.distinct hu.distinct
  findable := by
    rw [keys_overlay hu.distinct, List.mem_append, List.mem_filter]
    rintro (hnan | hnan)
    · exact hl.findable hnan
    · exact hu.findable hnan.1

/-- Setting a key to what it is set to changes nothing. -/
theorem put_of_get?_eq_some {key : Scalar} {v : Value} {entries : Entries}
    (h : get? key entries = some v) : put key v entries = entries := by
  induction entries with
  | nil => cases h
  | cons entry rest ih =>
    obtain ⟨k, w⟩ := entry
    rw [get?] at h
    split at h
    case isTrue hk =>
      cases h
      rw [put, if_pos hk]
    case isFalse hk => rw [put, if_neg hk, ih h]

/-- Entries that change no value under their key change nothing. -/
theorem overlay_eq_self
    (h : ∀ e ∈ upper, ∃ v, get? e.1 lower = some v ∧ Value.overlay (some v) e.2 = v) :
    overlay lower upper = lower := by
  induction upper with
  | nil => exact overlay_nil lower
  | cons entry rest ih =>
    obtain ⟨key, value⟩ := entry
    obtain ⟨v, hv, hsame⟩ := h (key, value) (by simp)
    rw [overlay_cons, hv, hsame, put_of_get?_eq_some hv]
    exact ih fun e he => h e (List.mem_cons_of_mem _ he)

/-- Overlays can be regrouped if they can under each key. -/
theorem overlay_assoc_of_get? (ha : a.ProperKeys) (hb : b.ProperKeys) (hc : c.ProperKeys)
    (hvalue : ∀ k v, get? k c = some v →
      Value.overlay (Value.overlaid (get? k a) (get? k b)) v =
        Value.overlay (get? k a) (Value.overlay (get? k b) v)) :
    overlay (overlay a b) c = overlay a (overlay b c) := by
  have hab := ha.overlay hb
  have hbc := hb.overlay hc
  refine (hab.overlay hc).eq_of_get? (ha.overlay hbc) ?_ ?_
  · -- a key of the last mapping is new if neither of the others has it
    have hnew : ∀ k, (get? k (overlay a b)).isNone = ((get? k a).isNone && (get? k b).isNone) := by
      intro k
      rw [get?_overlay_eq hb.distinct]
      cases get? k a <;> cases get? k b <;> rfl
    rw [keys_overlay hc.distinct, keys_overlay hb.distinct, keys_overlay hbc.distinct,
      keys_overlay hc.distinct, List.filter_append, List.filter_filter, List.append_assoc]
    simp only [hnew]
  · intro k
    rw [get?_overlay_eq hc.distinct, get?_overlay_eq hb.distinct, get?_overlay_eq hbc.distinct,
      get?_overlay_eq hc.distinct]
    cases hk : get? k c with
    | none => rfl
    | some v => exact congrArg some (hvalue k v hk)

end Entries

namespace Value

/-- Along mappings, every key leads to one entry. -/
inductive Navigable : Value → Prop
  | map {entries : Entries} : entries.ProperKeys → (∀ e ∈ entries, Navigable e.2) →
      Navigable (.map entries)
  | leaf {v : Value} : v.isMap = false → Navigable v

theorem Navigable.properKeys {entries : Entries} (h : (Value.map entries).Navigable) :
    entries.ProperKeys := by
  cases h with
  | map hkeys _ => exact hkeys
  | leaf hmap => cases hmap

theorem Navigable.of_get? {entries : Entries} (h : (Value.map entries).Navigable) {key : Scalar}
    {v : Value} (hv : entries.get? key = some v) : v.Navigable := by
  obtain ⟨k, hmem, -⟩ := Entries.mem_of_get?_eq_some hv
  cases h with
  | map _ hvalues => exact hvalues _ hmem
  | leaf hmap => cases hmap

/-- Over what is no mapping a value stands as it is. -/
theorem overlay_of_forall_ne {lower : Option Value} (h : ∀ l, lower ≠ some (.map l)) (v : Value) :
    overlay lower v = v :=
  overlay_of_ne_map fun l _ hmap => h l hmap.1

theorem overlay_none (v : Value) : overlay none v = v :=
  overlay_of_forall_ne (by simp) v

/-- What lies on top can be laid over again. -/
theorem overlay_overlay_self {v : Value} (h : v.Navigable) (lower : Option Value) :
    overlay (some (overlay lower v)) v = overlay lower v := by
  induction h generalizing lower with
  | leaf hmap => rw [overlay_of_not_isMap hmap, overlay_of_not_isMap hmap]
  | @map upper hkeys _ ih =>
    rw [overlay_map_eq hkeys.distinct lower, overlay_map]
    refine congrArg Value.map (Entries.overlay_eq_self ?_)
    rintro ⟨key, v⟩ hmem
    refine ⟨overlay ((entriesOf lower).get? key) v, ?_, ih (key, v) hmem _⟩
    rw [Entries.get?_overlay hkeys.distinct, hkeys.get?_of_mem hmem]

/-- The path leads in the lower and the upper value to mappings, and between them to something that
is no mapping. -/
def Interrupted (lower middle upper : Option Value) (p : List Scalar) : Prop :=
  ∃ l m u, lower.bind (at? p) = some (.map l) ∧ middle.bind (at? p) = some m ∧ m.isMap = false ∧
    upper.bind (at? p) = some (.map u)

theorem Interrupted.cons {l m u : Entries} {key : Scalar} {p : List Scalar}
    (h : Interrupted (l.get? key) (m.get? key) (u.get? key) p) :
    Interrupted (some (.map l)) (some (.map m)) (some (.map u)) (key :: p) := by
  simpa only [Interrupted, Option.bind_some, at?_cons_map] using h

/-- Two values can be laid over a third one by one or together, where no mapping is cut off from a
mapping. -/
theorem overlay_overlaid {v : Value} (hv : v.Navigable) {x y : Option Value}
    (hx : ∀ l, x = some l → l.Navigable) (hy : ∀ m, y = some m → m.Navigable)
    (h : ∀ p, ¬ Interrupted x y (some v) p) :
    overlay (overlaid x y) v = overlay x (overlay y v) := by
  induction hv generalizing x y with
  | leaf hmap =>
    rw [overlay_of_not_isMap hmap, overlay_of_not_isMap hmap, overlay_of_not_isMap hmap]
  | @map u hkeys _ ih =>
    by_cases hlower : ∃ l, x = some (.map l)
    · obtain ⟨l, rfl⟩ := hlower
      cases y with
      | none =>
        rw [overlay_none]
        rfl
      | some m =>
        have hmap : m.isMap = true := by
          refine (Bool.not_eq_false _).mp fun hleaf => h [] ⟨l, m, u, rfl, rfl, hleaf, rfl⟩
        obtain ⟨m, rfl⟩ := isMap_iff.1 hmap
        have hl := hx _ rfl
        have hm := hy _ rfl
        rw [overlaid, overlay_map, overlay_map, overlay_map, overlay_map,
          Entries.overlay_assoc_of_get? hl.properKeys hm.properKeys hkeys]
        intro k w hw
        obtain ⟨j, hmem, -⟩ := Entries.mem_of_get?_eq_some hw
        refine ih (j, w) hmem (fun _ => hl.of_get?) (fun _ => hm.of_get?) fun p hp => ?_
        exact h (k :: p) (Interrupted.cons (hw ▸ hp))
    · -- what lies below is covered in either case
      have hne : ∀ l, x ≠ some (.map l) := fun l hl => hlower ⟨l, hl⟩
      cases y with
      | none => rw [overlaid, overlay_none]
      | some m => rw [overlaid, overlay_of_forall_ne hne, overlay_of_forall_ne hne]

/-- Mappings over nothing, under nothing and over themselves are themselves; an overlay absorbs what
it was made with, and overlays can be regrouped where no mapping is cut off from a mapping. -/
theorem overlay_laws {a b c : Entries} (ha : (Value.map a).Navigable) (hb : (Value.map b).Navigable)
    (hc : (Value.map c).Navigable) :
    b.overlay [] = b ∧ Entries.overlay [] b = b ∧ b.overlay b = b ∧
    (a.overlay b).overlay b = a.overlay b ∧
    ((∀ p, ¬ Interrupted (some (.map a)) (some (.map b)) (some (.map c)) p) →
      (a.overlay b).overlay c = a.overlay (b.overlay c)) := by
  have hself := overlay_overlay_self hb none
  have habsorb := overlay_overlay_self hb (some (.map a))
  rw [overlay_none, overlay_map, Value.map.injEq] at hself
  rw [overlay_map, overlay_map, Value.map.injEq] at habsorb
  refine ⟨Entries.overlay_nil b, Entries.nil_overlay hb.properKeys.distinct, hself, habsorb, ?_⟩
  intro h
  have hassoc := overlay_overlaid hc (x := some (.map a)) (y := some (.map b))
    (fun _ hl => Option.some.inj hl ▸ ha) (fun _ hm => Option.some.inj hm ▸ hb) h
  rwa [overlaid, overlay_map, overlay_map, overlay_map, overlay_map, Value.map.injEq] at hassoc

theorem navigable_singleton {key : Scalar} {v : Value} (hkey : key ≠ .nan) (hv : v.Navigable) :
    (Value.map [(key, v)]).Navigable :=
  .map ⟨List.pairwise_singleton _ _, by simpa [Entries.keys] using hkey.symm⟩
    fun _ he => List.mem_singleton.1 he ▸ hv

/-- A mapping under a text below a number. -/
def coveredEntries : Entries := [(.int 1, .object [("b", .object [("x", .null)])])]

/-- A number over that mapping, below a truth value that is the same key as the number above it. -/
def coveringEntries : Entries := [(.bool true, .object [("b", .int 2)])]

/-- Another text beside it. -/
def besideEntries : Entries := [(.int 1, .object [("c", .null)])]

/-- A mapping is covered, but no mapping comes on top of what covers it. -/
theorem overlay_laws_covered :
    coveringEntries.overlay coveringEntries = coveringEntries ∧
    (coveredEntries.overlay coveringEntries).overlay coveringEntries =
      coveredEntries.overlay coveringEntries ∧
    (coveredEntries.overlay coveringEntries).overlay besideEntries =
      coveredEntries.overlay (coveringEntries.overlay besideEntries) ∧
    (coveredEntries.overlay coveringEntries).overlay besideEntries =
      [(.int 1, .object [("b", .int 2), ("c", .null)])] := by
  have hopen : ∀ p, ¬ Interrupted (some (.map coveredEntries)) (some (.map coveringEntries))
      (some (.map besideEntries)) p := by
    rintro p ⟨l, m, u, -, hm, hleaf, hu⟩
    cases p with
    | nil =>
      cases hm
      cases hleaf
    | cons key path =>
      rw [Option.bind_some, at?_cons_map, besideEntries, Entries.get?] at hu
      split at hu
      case isFalse => cases hu
      case isTrue hkey =>
        rw [Option.bind_some, object] at hu
        rw [Option.bind_some, at?_cons_map, Entries.get?_of_sameKey hkey.symm] at hm
        cases path with
        | nil =>
          cases hm
          cases hleaf
        | cons next path =>
          -- below that text of the last mapping there is no other mapping
          obtain ⟨v, hv, hpath⟩ := Option.bind_eq_some_iff.1 ((at?_cons_map _ _ _).symm.trans hu)
          obtain ⟨_, hmem, -⟩ := Entries.mem_of_get?_eq_some hv
          cases List.mem_singleton.1 hmem
          cases isMap_of_at? hpath
  have hnull : Value.null.Navigable := .leaf rfl
  have hcovered : (Value.map coveredEntries).Navigable :=
    navigable_singleton (by simp)
      (navigable_singleton (by simp) (navigable_singleton (by simp) hnull))
  have hcovering : (Value.map coveringEntries).Navigable :=
    navigable_singleton (by simp) (navigable_singleton (by simp) (.leaf rfl))
  have hbeside : (Value.map besideEntries).Navigable :=
    navigable_singleton (by simp) (navigable_singleton (by simp) hnull)
  obtain ⟨-, -, hself, habsorb, hassoc⟩ := overlay_laws hcovered hcovering hbeside
  exact ⟨hself, habsorb, hassoc hopen, rfl⟩

/-- Where a mapping comes on top of what covers a mapping, the covered one shows if the upper two
are laid over each other first. -/
example :
    (Entries.overlay [(.text "b", .object [("x", .int 0)])] [(.text "b", .int 2)]).overlay
        [(.text "b", .object [("y", .int 1)])] =
      [(.text "b", .object [("y", .int 1)])] ∧
    Entries.overlay [(.text "b", .object [("x", .int 0)])]
        (Entries.overlay [(.text "b", .int 2)] [(.text "b", .object [("y", .int 1)])]) =
      [(.text "b", .object [("x", .int 0), ("y", .int 1)])] :=
  ⟨rfl, rfl⟩

end Value
end SearchQuery
