import SearchQuery.Value.Overlay

/-!
# Looking into overlays

In a mapping each key is set once. Then what an overlay says under a key is said by the upper
entries if they have the key, and by the lower ones otherwise; where both have a mapping, the one
lies over the other.
-/

namespace SearchQuery

open Scalar

namespace Entries

/-- No key is set twice. -/
def DistinctKeys (entries : Entries) : Prop := entries.Pairwise fun e f => ¬ SameKey e.1 f.1

instance : DecidablePred DistinctKeys := fun entries =>
  inferInstanceAs (Decidable (entries.Pairwise fun e f => ¬ SameKey e.1 f.1))

theorem get?_of_sameKey {j k : Scalar} (h : SameKey j k) (entries : Entries) :
    get? j entries = get? k entries := by
  induction entries with
  | nil => rfl
  | cons entry rest ih =>
    obtain ⟨key, v⟩ := entry
    have hiff : SameKey key j ↔ SameKey key k := ⟨fun hj => hj.trans h, fun hk => hk.trans h.symm⟩
    simp only [get?, hiff, ih]

theorem mem_of_get?_eq_some {key : Scalar} {v : Value} {entries : Entries}
    (h : get? key entries = some v) : ∃ k, (k, v) ∈ entries ∧ SameKey k key := by
  induction entries with
  | nil => cases h
  | cons entry rest ih =>
    obtain ⟨k, w⟩ := entry
    rw [get?] at h
    split at h
    case isTrue hk =>
      cases h
      exact ⟨k, by simp, hk⟩
    case isFalse =>
      obtain ⟨j, hmem, hj⟩ := ih h
      exact ⟨j, by simp [hmem], hj⟩

/-- What an overlay says under a key. -/
theorem get?_overlay {upper : Entries} (h : upper.DistinctKeys) (lower : Entries) (k : Scalar) :
    get? k (overlay lower upper) =
      match get? k upper with
      | none => get? k lower
      | some v => some (Value.overlay (get? k lower) v) := by
  induction upper generalizing lower with
  | nil => simp
  | cons entry rest ih =>
    obtain ⟨key, value⟩ := entry
    obtain ⟨hkey, hrest⟩ := List.pairwise_cons.1 h
    rw [overlay_cons, ih hrest, get?_put, get?]
    by_cases hk : SameKey key k
    · -- the key stands nowhere in the rest, so that what was put stays
      have hnone : get? k rest = none := by
        rw [get?_eq_none_iff]
        intro j hj hjk
        obtain ⟨e, he, rfl⟩ := List.mem_map.1 hj
        exact hkey e he (hk.trans hjk.symm)
      rw [hnone, if_pos hk, if_pos hk, get?_of_sameKey hk]
    · rw [if_neg hk, if_neg hk]

end Entries

/-- What an overlay says where the lower entries say `x` and the upper ones `y`. -/
def Value.overlaid (x y : Option Value) : Option Value :=
  match y with
  | none => x
  | some v => some (Value.overlay x v)

theorem Entries.get?_overlay_eq {upper : Entries} (h : upper.DistinctKeys) (lower : Entries)
    (k : Scalar) :
    get? k (overlay lower upper) = Value.overlaid (get? k lower) (get? k upper) := by
  rw [get?_overlay h]
  rfl

namespace Value

/-- In every mapping of the value no key is set twice. -/
inductive Keyed : Value → Prop
  | scalar (s : Scalar) : Keyed (.scalar s)
  | list {items : List Value} : (∀ v ∈ items, Keyed v) → Keyed (.list items)
  | map {entries : Entries} : entries.DistinctKeys → (∀ e ∈ entries, Keyed e.2) →
      Keyed (.map entries)
  | set (members : List Scalar) : Keyed (.set members)

theorem Keyed.distinctKeys {entries : Entries} (h : (Value.map entries).Keyed) :
    entries.DistinctKeys := by
  cases h with
  | map hkeys _ => exact hkeys

theorem Keyed.of_get? {entries : Entries} (h : (Value.map entries).Keyed) {key : Scalar} {v : Value}
    (hv : entries.get? key = some v) : v.Keyed := by
  obtain ⟨k, hmem, -⟩ := Entries.mem_of_get?_eq_some hv
  cases h with
  | map _ hvalues => exact hvalues _ hmem

theorem overlay_map (lower upper : Entries) :
    overlay (some (.map lower)) (.map upper) = .map (lower.overlay upper) := by
  rw [overlay]

/-- A mapping over no mapping, and whatever is no mapping, stands as it is. -/
theorem overlay_of_ne_map {lower : Option Value} {upper : Value}
    (h : ∀ l u, ¬ (lower = some (.map l) ∧ upper = .map u)) : overlay lower upper = upper := by
  cases upper with
  | map u =>
    rw [overlay]
    exact fun l hl => h l u ⟨hl, rfl⟩
  | scalar s => rw [overlay]; exact fun _ h => nomatch h
  | list items => rw [overlay]; exact fun _ h => nomatch h
  | set members => rw [overlay]; exact fun _ h => nomatch h

end Value
end SearchQuery
