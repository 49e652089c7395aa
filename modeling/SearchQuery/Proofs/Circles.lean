import Mathlib.Data.Finset.Card
import Mathlib.Data.Nat.SuccPred
import Mathlib.Logic.Relation
import Mathlib.Order.SuccPred.Relation
import SearchQuery.Proofs.DocumentKeys

/-!
# Documents in a circle

Through aliases a mapping can stand below itself. Laying such a document over itself comes to no
end, and it is the only kind of document of which this holds: a mapping meets itself again, since
the mappings of a document are finitely many.
-/

namespace SearchQuery
namespace Yaml
namespace Document

open Relation

/-- The second node stands in the first, a mapping, under a key that is found again. -/
def Below (d : Document) (i j : NodeId) : Prop :=
  ∃ entries, d.content i = .map entries ∧ ∃ key, (key, j) ∈ entries ∧ d.scalarOf key ≠ .nan

/-- From a node a mapping is reached that stands below itself. -/
def CircularFrom (d : Document) (i : NodeId) : Prop :=
  ∃ j, ReflTransGen d.Below i j ∧ TransGen d.Below j j

/-- Some mapping of the document stands below itself, with nothing but mappings on the way. -/
def Circular (d : Document) : Prop := d.CircularFrom d.root

section

variable {d : Document} {i j : NodeId}

theorem Below.lt_size (h : d.Below i j) : i < d.contents.size := by
  obtain ⟨entries, hi, -⟩ := h
  by_contra hsize
  rw [content, Array.getElem?_eq_none (Nat.le_of_not_lt hsize)] at hi
  cases hi

theorem CircularFrom.exists_below (h : d.CircularFrom i) : ∃ j, d.Below i j ∧ d.CircularFrom j := by
  obtain ⟨k, hik, hk⟩ := h
  rcases hik.cases_head with rfl | ⟨j, hij, hjk⟩
  · obtain ⟨j, hij, hji⟩ := TransGen.head'_iff.1 hk
    exact ⟨j, hij, i, hji, hk⟩
  · exact ⟨j, hij, k, hjk, hk⟩

/-- In a mapping that sets no key twice, what is found under a key of an entry is the entry. -/
theorem find?_key (hd : d.KeysApart) {entries : List (NodeId × NodeId)}
    (hi : d.content i = .map entries) {e : NodeId × NodeId} (he : e ∈ entries)
    (hnan : d.scalarOf e.1 ≠ .nan) :
    entries.find? (fun f => Scalar.SameKey (d.scalarOf e.1) (d.scalarOf f.1)) = some e := by
  obtain ⟨before, after, rfl⟩ := List.append_of_mem he
  have hbefore := (List.pairwise_append.1 (hd i _ hi)).2.2
  rw [List.find?_eq_some_iff_append]
  refine ⟨by simpa using hnan, before, after, rfl, fun f hf => ?_⟩
  have hne := hbefore f hf e List.mem_cons_self
  simpa using fun hsame => hne hsame.symm

/-- What is no number is not found again. -/
theorem find?_nan {key : NodeId} (hnan : d.scalarOf key = .nan) (entries : List (NodeId × NodeId)) :
    entries.find? (fun f => Scalar.SameKey (d.scalarOf key) (d.scalarOf f.1)) = none := by
  rw [List.find?_eq_none]
  intro f _ hsame
  exact (of_decide_eq_true hsame).2 hnan

theorem meets_self_succ (hd : d.KeysApart) {levels : Nat} :
    meets d d i i (levels + 1) = true ↔ ∃ j, d.Below i j ∧ meets d d j j levels = true := by
  rw [meets]
  split
  case h_1 entries others hi hothers =>
    obtain rfl : entries = others := by
      rw [hi] at hothers
      exact Content.map.inj hothers
    simp only [List.any_eq_true]
    constructor
    · rintro ⟨⟨key, j⟩, hkey, hmeets⟩
      by_cases hnan : d.scalarOf key = .nan
      · rw [find?_nan hnan] at hmeets
        cases hmeets
      · rw [find?_key hd hi hkey hnan] at hmeets
        exact ⟨j, ⟨entries, hi, key, hkey, hnan⟩, hmeets⟩
    · rintro ⟨j, ⟨others, hothers, key, hkey, hnan⟩, hmeets⟩
      obtain rfl : entries = others := Content.map.inj (hi.symm.trans hothers)
      refine ⟨(key, j), hkey, ?_⟩
      rw [find?_key hd hi hkey hnan]
      exact hmeets
  case h_2 hne =>
    refine iff_of_false Bool.false_ne_true ?_
    rintro ⟨j, ⟨entries, hi, -⟩, -⟩
    exact hne entries entries hi hi

/-- Nodes that meet themselves for some levels go down as many levels through mappings. -/
theorem exists_path_of_meets (hd : d.KeysApart) {levels : Nat}
    (h : meets d d i i levels = true) :
    ∃ path : Nat → NodeId, path 0 = i ∧ ∀ k < levels, d.Below (path k) (path (k + 1)) := by
  induction levels generalizing i with
  | zero => exact ⟨fun _ => i, rfl, fun k hk => absurd hk (Nat.not_lt_zero k)⟩
  | succ levels ih =>
    obtain ⟨j, hij, hj⟩ := (meets_self_succ hd).1 h
    obtain ⟨path, rfl, hpath⟩ := ih hj
    refine ⟨fun k => k.casesOn i path, rfl, fun k hk => ?_⟩
    cases k with
    | zero => exact hij
    | succ k => exact hpath k (Nat.lt_of_succ_lt_succ hk)

theorem CircularFrom.meets (hd : d.KeysApart) (h : d.CircularFrom i) (levels : Nat) :
    meets d d i i levels = true := by
  induction levels generalizing i with
  | zero => rfl
  | succ levels ih =>
    obtain ⟨j, hij, hj⟩ := h.exists_below
    exact (meets_self_succ hd).2 ⟨j, hij, ih hj⟩

/-- A way down that is longer than the nodes are many comes to a node twice. -/
theorem circularFrom_of_path {path : Nat → NodeId} {levels : Nat}
    (hlevels : d.contents.size < levels)
    (hpath : ∀ k < levels, d.Below (path k) (path (k + 1))) : d.CircularFrom (path 0) := by
  have hsize : ∀ k ∈ Finset.range levels, path k ∈ Finset.range d.contents.size := fun k hk =>
    Finset.mem_range.2 (hpath k (Finset.mem_range.1 hk)).lt_size
  obtain ⟨a, ha, b, hb, hne, hsame⟩ := Finset.exists_ne_map_eq_of_card_lt_of_maps_to
    (by rwa [Finset.card_range, Finset.card_range]) hsize
  wlog hab : a < b generalizing a b
  · exact this b hb a ha hne.symm hsame.symm (Nat.lt_of_le_of_ne (Nat.le_of_not_lt hab) hne.symm)
  have hway (m n : Nat) (hn : n ≤ b) : ∀ k ∈ Set.Ico m n, d.Below (path k) (path (Order.succ k)) :=
    fun k hk => hpath k ((hk.2.trans_le hn).trans (Finset.mem_range.1 hb))
  have hdown : ReflTransGen d.Below (path 0) (path a) :=
    (reflTransGen_of_succ_of_le (fun m n => d.Below (path m) (path n)) (hway 0 a hab.le)
      a.zero_le).lift path fun _ _ h => h
  have hround : TransGen d.Below (path a) (path b) :=
    (transGen_of_succ_of_lt (fun m n => d.Below (path m) (path n)) (hway a b le_rfl)
      hab).lift path fun _ _ h => h
  rw [← hsame] at hround
  exact ⟨path a, hdown, hround⟩

/-- Laying a document over itself comes to no end exactly if a mapping stands below itself. -/
theorem meetEndlessly_self_iff (hd : d.KeysApart) : d.meetEndlessly d = true ↔ d.Circular := by
  constructor
  · intro h
    obtain ⟨path, hroot, hpath⟩ := exists_path_of_meets hd h
    rw [Circular, ← hroot]
    refine circularFrom_of_path ?_ hpath
    have := Nat.le_mul_self d.contents.size
    omega
  · exact fun h => h.meets hd _

end
end Document
end Yaml
end SearchQuery
