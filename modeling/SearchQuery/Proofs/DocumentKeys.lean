import Mathlib.Data.List.Basic
import SearchQuery.Proofs.Overlays
import SearchQuery.Proofs.Steps
import SearchQuery.Yaml.Document

/-!
# Keys of documents

The mappings of a document set no key twice. Filling a document only adds to what its nodes hold,
until a collection that is filled takes the place of the empty one. Scalars stay as they are, so
that keys that were told apart when they were put in a mapping are told apart ever after.
-/

namespace SearchQuery
namespace Yaml

variable {α β : Type}

namespace Filling

/-- What a node holds, if it is settled. -/
def held? (s : Filling) (id : NodeId) : Option Content := (s.contents[id]?).join

/-- What is settled stays, and mappings that are new are empty. -/
structure Extends (s t : Filling) : Prop where
  held : ∀ id c, s.held? id = some c → t.held? id = some c
  new : ∀ id entries, t.held? id = some (.map entries) →
    s.held? id = some (.map entries) ∨ entries = []

/-- Nodes that hold scalars, no two of them the same key. -/
structure KeysApart (s : Filling) (ids : List NodeId) : Prop where
  scalar : ∀ id ∈ ids, ∃ x, s.held? id = some (.scalar x)
  apart : ids.Pairwise fun i j => ∀ x y, s.held? i = some (.scalar x) →
    s.held? j = some (.scalar y) → ¬ Scalar.SameKey x y

/-- No mapping sets a key twice. -/
def Sound (s : Filling) : Prop :=
  ∀ id entries, s.held? id = some (.map entries) → s.KeysApart (entries.map Prod.fst)

/-- Scalars stay, and mappings stay without repetitions. -/
structure Grows (s t : Filling) : Prop where
  scalar : ∀ id x, s.held? id = some (.scalar x) → t.held? id = some (.scalar x)
  sound : s.Sound → t.Sound

instance : IsPreorder Filling Extends where
  refl _ := ⟨fun _ _ h => h, fun _ _ h => .inl h⟩
  trans _ _ _ hst htu :=
    ⟨fun id c h => htu.held id c (hst.held id c h), fun id entries h =>
      (htu.new id entries h).elim (hst.new id entries) .inr⟩

instance : IsPreorder Filling Grows where
  refl _ := ⟨fun _ _ h => h, id⟩
  trans _ _ _ hst htu := ⟨fun id x h => htu.scalar id x (hst.scalar id x h), htu.sound ∘ hst.sound⟩

section

variable {s t : Filling} {ids : List NodeId}

theorem KeysApart.of_scalars (h : s.KeysApart ids)
    (hst : ∀ id x, s.held? id = some (.scalar x) → t.held? id = some (.scalar x)) :
    t.KeysApart ids where
  scalar id hid := by
    obtain ⟨x, hx⟩ := h.scalar id hid
    exact ⟨x, hst id x hx⟩
  apart := by
    refine h.apart.imp_of_mem fun {i j} hi hj hne x y hx hy => ?_
    obtain ⟨x', hx'⟩ := h.scalar i hi
    obtain ⟨y', hy'⟩ := h.scalar j hj
    rw [hst i x' hx'] at hx
    rw [hst j y' hy'] at hy
    cases hx
    cases hy
    exact hne x y hx' hy'

theorem keysApart_nil (s : Filling) : s.KeysApart [] := ⟨by simp, .nil⟩

theorem KeysApart.concat (h : s.KeysApart ids) {key : NodeId} {x : Scalar}
    (hx : s.held? key = some (.scalar x))
    (hne : ∀ id ∈ ids, ∀ y, s.held? id = some (.scalar y) → ¬ Scalar.SameKey y x) :
    s.KeysApart (ids ++ [key]) where
  scalar id hid := by
    rcases List.mem_append.1 hid with hid | hid
    · exact h.scalar id hid
    · exact ⟨x, List.mem_singleton.1 hid ▸ hx⟩
  apart := by
    refine List.pairwise_append.2 ⟨h.apart, List.pairwise_singleton _ _, ?_⟩
    intro i hi j hj y z hy hz
    rw [List.mem_singleton.1 hj, hx] at hz
    cases hz
    exact hne i hi y hy

theorem extends_of_contents (h : t.contents = s.contents) : Extends s t := by
  have hheld : ∀ id, t.held? id = s.held? id := fun id => congrArg (·[id]?.join) h
  exact ⟨fun id c hc => (hheld id).trans hc, fun id entries he => .inl ((hheld id).symm.trans he)⟩

theorem Extends.grows (h : Extends s t) : Grows s t where
  scalar id x := h.held id (.scalar x)
  sound hs id entries hentries := by
    rcases h.new id entries hentries with hold | rfl
    · exact (hs id entries hold).of_scalars fun id x => h.held id (.scalar x)
    · exact keysApart_nil t

/-- Settling a node changes what it holds, if there is such a node. -/
theorem held?_settle {id : NodeId} {c : Content}
    (h : t.contents = s.contents.setIfInBounds id (some c)) (j : NodeId) :
    t.held? j = if j = id ∧ id < s.contents.size then some c else s.held? j := by
  unfold held?
  rw [h, Array.getElem?_setIfInBounds]
  by_cases hj : id = j
  · subst hj
    by_cases hsize : id < s.contents.size
    · simp [hsize]
    · simp [hsize]
  · rw [if_neg hj, if_neg fun h => hj h.1.symm]

/-- Settling a node that was not settled, but not as a mapping with entries. -/
theorem extends_settle {id : NodeId} {c : Content} (hnone : s.held? id = none)
    (hc : ∀ entries, c = .map entries → entries = [])
    (h : t.contents = s.contents.setIfInBounds id (some c)) : Extends s t where
  held j d hd := by
    rw [held?_settle h, if_neg]
    · exact hd
    · rintro ⟨rfl, -⟩
      rw [hnone] at hd
      cases hd
  new j entries hj := by
    rw [held?_settle h] at hj
    split at hj
    · exact .inr (hc entries (Option.some.inj hj))
    · exact .inl hj

/-- A collection that is settled, filled or not. -/
def IsCollection (s : Filling) (id : NodeId) : Prop :=
  ∃ c, s.held? id = some c ∧ ∀ x, c ≠ .scalar x

theorem IsCollection.extend {id : NodeId} (h : s.IsCollection id) (hst : Extends s t) :
    t.IsCollection id := by
  obtain ⟨c, hc, hne⟩ := h
  exact ⟨c, hst.held id c hc, hne⟩

theorem grows_settle {id : NodeId} {c : Content} (hid : s.IsCollection id)
    (hc : ∀ entries, c = .map entries → s.KeysApart (entries.map Prod.fst))
    (h : t.contents = s.contents.setIfInBounds id (some c)) : Grows s t := by
  have hscalar : ∀ j x, s.held? j = some (.scalar x) → t.held? j = some (.scalar x) := by
    intro j x hj
    rw [held?_settle h, if_neg]
    · exact hj
    · rintro ⟨rfl, -⟩
      obtain ⟨d, hd, hne⟩ := hid
      rw [hd] at hj
      exact hne x (Option.some.inj hj)
  refine ⟨hscalar, fun hs j entries hj => ?_⟩
  rw [held?_settle h] at hj
  split at hj
  · exact (hc entries (Option.some.inj hj)).of_scalars hscalar
  · exact (hs j entries hj).of_scalars hscalar

end
end Filling

namespace Fill

open Filling Steps

section

variable {R : Filling → Filling → Prop} [IsPreorder Filling R]

theorem preserves_node (id : NodeId) : Preserves R (node id) := by
  refine preserves_get.bind fun s => ?_
  cases s.nodes[id]? with
  | none => exact preserves_throw _
  | some n => exact preserves_pure n

theorem preserves_content? (id : NodeId) : Preserves R (content? id) :=
  preserves_get.bind fun _ => preserves_pure _

theorem preserves_hasTag (tag : Tag) (id : NodeId) : Preserves R (hasTag tag id) :=
  (preserves_node id).bind fun _ => preserves_pure _

theorem preserves_entriesOf (id : NodeId) : Preserves R (entriesOf id) := by
  refine (preserves_node id).bind fun n => ?_
  cases n with
  | mapping => exact preserves_pure _
  | _ => exact preserves_throw _

theorem preserves_keyOf (id : NodeId) : Preserves R (keyOf id) := by
  refine (preserves_content? id).bind fun c => ?_
  split
  · exact preserves_pure _
  · exact preserves_throw _

theorem preserves_put (key value : NodeId) (known : List (NodeId × NodeId)) :
    Preserves R (put key value known) := by
  induction known with
  | nil => exact preserves_pure _
  | cons entry known ih =>
    refine (preserves_keyOf _).bind fun x => (preserves_keyOf _).bind fun y => ?_
    split
    · exact preserves_pure _
    · exact ih.bind fun _ => preserves_pure _

theorem preserves_textOf (id : NodeId) (fuel : Nat) : Preserves R (textOf id fuel) := by
  induction fuel generalizing id with
  | zero => exact preserves_throw _
  | succ fuel ih =>
    rw [textOf]
    refine (preserves_node id).bind fun n => ?_
    split
    case h_1 => exact preserves_pure _
    case h_2 => exact preserves_throw _
    case h_3 tag entries =>
      have hfind : Preserves R (entries.findM? fun e => hasTag .value e.1) := by
        apply preserves_findM?
        exact fun e => preserves_hasTag .value e.1
      refine hfind.bind fun e => ?_
      split
      · exact ih _
      · exact preserves_throw _

end

/-- A change of nodes leaves what they hold. -/
theorem preserves_replace (id : NodeId) (n : Node) : Preserves Extends (replace id n) := by
  rintro s a t ⟨⟩
  exact extends_of_contents rfl

theorem preserves_setEntries (id : NodeId) (entries : List (NodeId × NodeId)) :
    Preserves Extends (setEntries id entries) :=
  (preserves_node (R := Extends) id).bind fun _ => preserves_replace id _

theorem preserves_ownEntries (entries : List (NodeId × NodeId)) :
    Preserves Extends (ownEntries entries) := by
  induction entries with
  | nil => exact preserves_pure _
  | cons entry rest ih =>
    have hrest : Preserves Extends (do return (← ownEntries rest) + 1) :=
      ih.bind fun _ => preserves_pure _
    refine (preserves_node _).bind fun n => ?_
    split
    · exact preserves_pure 0
    · split
      · exact (preserves_replace _ _).bind fun _ => hrest
      · exact hrest

/-- Resolving merge keys changes nodes only. -/
theorem preserves_resolution (fuel : Nat) :
    (∀ id, Preserves Extends (resolve id fuel)) ∧
    (∀ id start, Preserves Extends (mergedFrom id start fuel)) ∧
    (∀ source, Preserves Extends (broughtBy source fuel)) ∧
    ∀ id, Preserves Extends (resolvedEntries id fuel) := by
  induction fuel with
  | zero =>
    refine ⟨fun id => ?_, fun id start => ?_, fun source => ?_, fun id => ?_⟩
    · rw [resolve]
      exact preserves_throw _
    · rw [mergedFrom]
      exact preserves_throw _
    · rw [broughtBy]
      exact preserves_throw _
    · rw [resolvedEntries]
      exact preserves_throw _
  | succ fuel ih =>
    obtain ⟨hresolve, hmerged, hbrought, hentries⟩ := ih
    refine ⟨fun id => ?_, fun id start => ?_, fun source => ?_, fun id => ?_⟩
    · rw [resolve]
      refine (hmerged id 0).bind fun merged => ?_
      split
      · exact (preserves_entriesOf id).bind fun _ => preserves_setEntries id _
      · exact preserves_pure _
    · rw [mergedFrom]
      refine (preserves_entriesOf id).bind fun entries => ?_
      refine (preserves_ownEntries _).bind fun own => ?_
      dsimp only
      split
      · exact preserves_pure _
      · exact (preserves_setEntries id _).bind fun _ => (hbrought _).bind fun _ =>
          (hmerged id _).bind fun _ => preserves_pure _
    · rw [broughtBy]
      refine (preserves_node source).bind fun n => ?_
      cases n with
      | scalar => exact preserves_throw _
      | mapping => exact hentries source
      | sequence => exact (preserves_mapM hentries _).bind fun _ => preserves_pure _
    · rw [resolvedEntries]
      refine (preserves_node id).bind fun n => ?_
      cases n with
      | mapping => exact (hresolve id).bind fun _ => preserves_entriesOf id
      | _ => exact preserves_throw _

/-! ## Contents -/

theorem eq_nil_of_emptyOf {tag : Tag} {entries : List (NodeId × NodeId)}
    (h : emptyOf tag = some (.map entries)) : entries = [] := by
  cases tag <;> simp_all [emptyOf]

theorem from_content? {R : Filling → Filling → Prop} {id : NodeId}
    {f : Option Content → Fill α} {s : Filling} (h : From R s (f (s.held? id))) :
    From R s (content? id >>= f) := h

theorem preserves_settleNode (id : NodeId) : Preserves Extends (settleNode id) := by
  intro s
  refine from_content? ?_
  split
  case isFalse => exact preserves_pure () s
  case isTrue hnone =>
    rw [Option.isNone_iff_eq_none] at hnone
    refine from_bind_of_eq (preserves_node id) fun n => ?_
    split
    case h_1 empty heq =>
      rintro u t ⟨⟩
      exact extends_settle hnone (fun entries h => eq_nil_of_emptyOf (h ▸ heq)) rfl
    case h_2 | h_3 | h_4 => exact preserves_throw _ s
    case h_5 =>
      refine from_bind_of_eq preserves_get fun _ => ?_
      refine from_bind_of_eq (preserves_textOf _ _) fun _ => ?_
      split
      · exact preserves_throw _ s
      · split
        · rintro u t ⟨⟩
          exact extends_settle (c := .scalar _) hnone (fun _ h => nomatch h) rfl
        · exact preserves_throw _ s

theorem held?_of_keyOf {id : NodeId} {s t : Filling} {x : Scalar} (h : keyOf id s = .ok (x, t)) :
    s.held? id = some (.scalar x) := by
  obtain ⟨c, u, hc, h⟩ := bind_eq_ok.1 h
  have hheld : s.held? id = c := by
    cases hc
    rfl
  cases c with
  | none => cases h
  | some c =>
    cases c with
    | scalar y =>
      cases h
      exact hheld
    | _ => cases h

/-- Putting an entry in a mapping keeps the keys, or adds one that was not among them. -/
theorem put_keys {key value : NodeId} {known known' : List (NodeId × NodeId)} {s t : Filling}
    {x : Scalar} (hx : s.held? key = some (.scalar x))
    (h : put key value known s = .ok (known', t)) :
    known'.map Prod.fst = known.map Prod.fst ∨
      known'.map Prod.fst = known.map Prod.fst ++ [key] ∧
      ∀ id ∈ known.map Prod.fst, ∀ y, s.held? id = some (.scalar y) → ¬ Scalar.SameKey y x := by
  induction known generalizing known' t with
  | nil =>
    cases h
    exact .inr ⟨rfl, by simp⟩
  | cons entry rest ih =>
    obtain ⟨k, v⟩ := entry
    rw [put] at h
    obtain ⟨y, u, hy, h⟩ := bind_eq_ok.1 h
    have hheld := held?_of_keyOf hy
    obtain rfl := preserves_keyOf (R := Eq) k s y u hy
    obtain ⟨z, u, hz, h⟩ := bind_eq_ok.1 h
    have hkey := held?_of_keyOf hz
    obtain rfl := preserves_keyOf (R := Eq) key s z u hz
    rw [hx] at hkey
    cases hkey
    split at h
    case isTrue =>
      cases h
      exact .inl rfl
    case isFalse hne =>
      obtain ⟨rest', u, hrest, h⟩ := bind_eq_ok.1 h
      cases h
      rcases ih hrest with hsame | ⟨hnew, happart⟩
      · exact .inl (congrArg (k :: ·) hsame)
      · refine .inr ⟨congrArg (k :: ·) hnew, fun id hid w hw => ?_⟩
        rcases List.mem_cons.1 hid with rfl | hid
        · rw [hheld] at hw
          cases hw
          exact fun hsame => hne (.inr hsame)
        · exact happart id hid w hw

theorem keysApart_put {key value : NodeId} {known known' : List (NodeId × NodeId)} {s t : Filling}
    {x : Scalar} (hx : s.held? key = some (.scalar x)) (hs : s.KeysApart (known.map Prod.fst))
    (h : put key value known s = .ok (known', t)) : s.KeysApart (known'.map Prod.fst) := by
  rcases put_keys hx h with hsame | ⟨hnew, hne⟩
  · rwa [hsame]
  · rw [hnew]
    exact hs.concat hx hne

/-- Settling entries adds to what nodes hold, and gives entries without repetitions. -/
theorem settleEntries_keys {entries known : List (NodeId × NodeId)} {s t : Filling}
    (h : settleEntries entries s = .ok (known, t)) :
    Extends s t ∧ t.KeysApart (known.map Prod.fst) := by
  refine foldlM_keeps (motive := fun known u => Extends s u ∧ u.KeysApart (known.map Prod.fst))
    ?_ ⟨refl_of Extends s, keysApart_nil s⟩ h
  rintro known ⟨key, value⟩ u known' v ⟨hu, hknown⟩ hentry
  obtain ⟨_, u₁, hkey, hentry₁⟩ := bind_eq_ok.1 hentry
  obtain ⟨x, u₂, hx, hentry₂⟩ := bind_eq_ok.1 hentry₁
  obtain ⟨_, u₃, hvalue, hput⟩ := bind_eq_ok.1 hentry₂
  obtain rfl := preserves_keyOf (R := Eq) key u₁ x u₂ hx
  have h₁ := preserves_settleNode key u _ _ hkey
  have h₃ := preserves_settleNode value u₁ _ _ hvalue
  obtain rfl := preserves_put (R := Eq) key value known u₃ known' v hput
  have hgrows := (trans_of Extends h₁ h₃).grows
  exact ⟨trans_of Extends hu (trans_of Extends h₁ h₃),
    keysApart_put (h₃.held key _ (held?_of_keyOf hx)) (hknown.of_scalars hgrows.scalar) hput⟩

theorem preserves_settlePair (id : NodeId) : Preserves Extends (settlePair id) := by
  refine (preserves_node id).bind fun n => ?_
  split
  · exact (preserves_settleNode _).bind fun _ => (preserves_settleNode _).bind fun _ =>
      preserves_pure _
  · exact preserves_throw _

theorem from_bind {x : Fill α} {f : α → Fill β} {s : Filling}
    (hf : ∀ a t, x s = .ok (a, t) → Extends s t ∧ From Grows t (f a)) :
    From Grows s (x >>= f) := by
  intro b t h
  obtain ⟨a, u, ha, h⟩ := bind_eq_ok.1 h
  obtain ⟨hextends, hsteps⟩ := hf a u ha
  exact trans_of Grows hextends.grows (hsteps b t h)

theorem from_settle {id : NodeId} {c : Content} {s : Filling} (hid : s.IsCollection id)
    (hkeys : ∀ entries, c = .map entries → s.KeysApart (entries.map Prod.fst)) :
    From Grows s (settle id c) := by
  rintro u t ⟨⟩
  exact grows_settle hid hkeys rfl

/-- Filling a mapping or a set with the keys of its entries. -/
theorem from_settle_resolved {id : NodeId} {f : List (NodeId × NodeId) → Content} {s : Filling}
    (hid : s.IsCollection id)
    (hf : ∀ known entries, f known = .map entries → entries = known) :
    From Grows s (do
      resolve id (← get).bound
      settle id (f (← settleEntries (← entriesOf id)))) := by
  refine from_bind_of_eq preserves_get fun state => from_bind fun _ t ht => ?_
  have hresolve := (preserves_resolution _).1 id s _ t ht
  refine ⟨hresolve, from_bind_of_eq (preserves_entriesOf id) fun entries => ?_⟩
  refine from_bind fun known u hu => ?_
  obtain ⟨hextends, hkeys⟩ := settleEntries_keys hu
  refine ⟨hextends, from_settle (hid.extend (trans_of Extends hresolve hextends)) ?_⟩
  intro entries hentries
  rwa [hf known entries hentries]

theorem preserves_fill (id : NodeId) : Preserves Grows (fill id) := by
  intro s
  refine from_bind_of_eq (preserves_node id) fun n => from_content? ?_
  split
  case h_1 hid =>
    exact from_bind fun _ t ht =>
      have hextends := preserves_forM preserves_settleNode _ s _ t ht
      ⟨hextends, from_settle (IsCollection.extend ⟨_, hid, by simp⟩ hextends) (by simp)⟩
  case h_2 hid =>
    exact from_bind fun _ t ht =>
      have hextends := preserves_mapM preserves_settlePair _ s _ t ht
      ⟨hextends, from_settle (IsCollection.extend ⟨_, hid, by simp⟩ hextends) (by simp)⟩
  case h_3 hid =>
    exact from_settle_resolved (f := .map) ⟨_, hid, by simp⟩ fun known entries h => by
      cases h
      rfl
  case h_4 hid =>
    exact from_settle_resolved (f := fun known => .set (known.map Prod.fst)) ⟨_, hid, by simp⟩
      fun known entries h => nomatch h
  case h_5 => exact preserves_throw _ s

theorem preserves_fillAll (fuel : Nat) : Preserves Grows (fillAll fuel) := by
  induction fuel with
  | zero => exact preserves_pure _
  | succ fuel ih =>
    refine preserves_get.bind fun s => ?_
    split
    · exact preserves_pure _
    · refine Preserves.bind ?_ fun _ => (preserves_forM preserves_fill _).bind fun _ => ih
      rintro s u t ⟨⟩
      have hextends : Extends s { s with waiting := [] } := extends_of_contents rfl
      exact hextends.grows

end Fill

/-- The contents of a document are those of a state that repeats no key. -/
theorem exists_sound_of_contentsOf {nodes : Graph} {root : NodeId}
    {contents : Array (Option Content)} (h : contentsOf nodes root = .ok contents) :
    ∃ s : Filling, s.Sound ∧ s.contents = contents := by
  obtain ⟨⟨u, s⟩, hfill, h⟩ := bind_eq_ok_iff.1 h
  cases h
  have hgrows : Steps.Preserves Filling.Grows
      (do Fill.settleNode root; Fill.fillAll (nodes.size + 1) : Fill Unit) :=
    Steps.Preserves.bind (fun s a t h => (Fill.preserves_settleNode root s a t h).grows)
      fun _ => Fill.preserves_fillAll _
  refine ⟨s, (hgrows _ _ _ hfill).sound fun id entries hheld => ?_, rfl⟩
  -- nothing is settled at the start
  rw [Filling.held?, Array.getElem?_replicate] at hheld
  split at hheld <;> cases hheld

namespace Document

/-- No mapping of the document sets a key twice. -/
def KeysApart (d : Document) : Prop :=
  ∀ id entries, d.content id = .map entries →
    entries.Pairwise fun e f => ¬ Scalar.SameKey (d.scalarOf e.1) (d.scalarOf f.1)

theorem content_eq_map_iff {s : Filling} {root id : NodeId} {entries : List (NodeId × NodeId)} :
    content ⟨s.contents, root⟩ id = .map entries ↔ s.held? id = some (.map entries) := by
  change (s.held? id).getD (.scalar .null) = _ ↔ _
  cases s.held? id with
  | none => simp
  | some c => simp

theorem scalarOf_of_held? {s : Filling} {root id : NodeId} {x : Scalar}
    (h : s.held? id = some (.scalar x)) : scalarOf ⟨s.contents, root⟩ id = x := by
  have hcontent : content ⟨s.contents, root⟩ id = .scalar x := by
    change (s.held? id).getD (.scalar .null) = _
    rw [h]
    rfl
  rw [scalarOf, hcontent]

theorem keysApart_of_sound {s : Filling} (h : s.Sound) (root : NodeId) :
    KeysApart ⟨s.contents, root⟩ := by
  intro id entries hentries
  have hkeys := h id entries (content_eq_map_iff.1 hentries)
  refine (List.pairwise_map.1 hkeys.apart).imp_of_mem fun {e f} he hf hne => ?_
  obtain ⟨x, hx⟩ := hkeys.scalar e.1 (List.mem_map_of_mem he)
  obtain ⟨y, hy⟩ := hkeys.scalar f.1 (List.mem_map_of_mem hf)
  rw [scalarOf_of_held? hx, scalarOf_of_held? hy]
  exact hne x y hx hy

theorem keysApart_of_ofText {t : Text} {d : Document} (h : ofText t = .ok d) : d.KeysApart := by
  obtain ⟨⟨nodes, root⟩, hgraph, h⟩ := bind_eq_ok_iff.1 h
  cases root with
  | none =>
    cases h
    rintro id entries ⟨⟩
  | some root =>
    obtain ⟨contents, hcontents, h⟩ := bind_eq_ok_iff.1 h
    cases h
    obtain ⟨s, hs, rfl⟩ := exists_sound_of_contentsOf hcontents
    exact keysApart_of_sound hs root

/-! ## Values -/

theorem exists_of_mem_mapM {f : α → Option β} {items : List α} {results : List β}
    (h : items.mapM f = some results) {b : β} (hb : b ∈ results) : ∃ a ∈ items, f a = some b := by
  induction items generalizing results with
  | nil =>
    cases h
    cases hb
  | cons a items ih =>
    rw [List.mapM_cons] at h
    obtain ⟨c, hc, h⟩ := Option.bind_eq_some_iff.1 h
    obtain ⟨rest, hrest, h⟩ := Option.bind_eq_some_iff.1 h
    cases h
    rcases List.mem_cons.1 hb with rfl | hb
    · exact ⟨a, List.mem_cons_self, hc⟩
    · obtain ⟨a', ha', hfa⟩ := ih hrest hb
      exact ⟨a', List.mem_cons_of_mem _ ha', hfa⟩

theorem map_eq_of_mapM {γ : Type} {f : α → Option β} {g : β → γ} {k : α → γ}
    (hfg : ∀ a b, f a = some b → g b = k a) {items : List α} {results : List β}
    (h : items.mapM f = some results) : results.map g = items.map k := by
  induction items generalizing results with
  | nil =>
    cases h
    rfl
  | cons a items ih =>
    rw [List.mapM_cons] at h
    obtain ⟨c, hc, h⟩ := Option.bind_eq_some_iff.1 h
    obtain ⟨rest, hrest, h⟩ := Option.bind_eq_some_iff.1 h
    cases h
    rw [List.map_cons, List.map_cons, hfg a c hc, ih hrest]

section

variable {d : Document}

theorem KeysApart.distinctKeys (hd : d.KeysApart) {id : NodeId} {pairs : List (NodeId × NodeId)}
    (hid : d.content id = .map pairs) {entries : Entries}
    (hkeys : entries.map Prod.fst = pairs.map fun e => d.scalarOf e.1) : entries.DistinctKeys := by
  have hpairs : (entries.map Prod.fst).Pairwise fun j k => ¬ Scalar.SameKey j k := by
    rw [hkeys, List.pairwise_map]
    exact hd id pairs hid
  exact List.pairwise_map.1 hpairs

theorem KeysApart.keyed_valueOf? (hd : d.KeysApart) {id : NodeId} {levels : Nat} {v : Value}
    (h : d.valueOf? id levels = some v) : v.Keyed := by
  induction levels generalizing id v with
  | zero => cases h
  | succ levels ih =>
    rw [valueOf?] at h
    split at h
    case h_1 s _ =>
      cases h
      exact .scalar s
    case h_2 items _ =>
      obtain ⟨values, hvalues, h⟩ := Option.bind_eq_some_iff.1 h
      cases h
      refine .list fun w hw => ?_
      obtain ⟨item, -, hitem⟩ := exists_of_mem_mapM hvalues hw
      exact ih hitem
    case h_3 pairs _ =>
      obtain ⟨values, hvalues, h⟩ := Option.bind_eq_some_iff.1 h
      cases h
      refine .list fun w hw => ?_
      obtain ⟨⟨key, value⟩, -, hpair⟩ := exists_of_mem_mapM hvalues hw
      obtain ⟨x, hx, hpair⟩ := Option.bind_eq_some_iff.1 hpair
      obtain ⟨y, hy, hpair⟩ := Option.bind_eq_some_iff.1 hpair
      cases hpair
      refine .list fun u hu => ?_
      rcases List.mem_pair.1 hu with rfl | rfl
      · exact ih hx
      · exact ih hy
    case h_4 pairs hid =>
      obtain ⟨entries, hentries, h⟩ := Option.bind_eq_some_iff.1 h
      cases h
      have hentry : ∀ (e : NodeId × NodeId) (b : Scalar × Value),
          (do return (d.scalarOf e.1, ← d.valueOf? e.2 levels)) = some b →
          b.1 = d.scalarOf e.1 ∧ d.valueOf? e.2 levels = some b.2 := by
        intro e b hb
        obtain ⟨w, hw, hb⟩ := Option.bind_eq_some_iff.1 hb
        cases hb
        exact ⟨rfl, hw⟩
      refine .map (hd.distinctKeys hid (map_eq_of_mapM (fun e b hb => (hentry e b hb).1) hentries))
        fun b hb => ?_
      obtain ⟨e, -, he⟩ := exists_of_mem_mapM hentries hb
      exact ih (hentry e b he).2
    case h_5 members _ =>
      cases h
      exact .set _

theorem KeysApart.keyed_outlineOf (hd : d.KeysApart) (id : NodeId) (levels : Nat) :
    (d.outlineOf id levels).Keyed := by
  induction levels generalizing id with
  | zero =>
    rw [outlineOf]
    split
    · exact .scalar _
    · exact .list (by simp)
    · exact .list (by simp)
    · exact .map .nil (by simp)
    · exact .set _
  | succ levels ih =>
    rw [outlineOf]
    split
    case h_1 => exact .scalar _
    case h_2 items _ =>
      refine .list fun v hv => ?_
      obtain ⟨item, -, rfl⟩ := List.mem_map.1 hv
      exact ih item
    case h_3 pairs _ =>
      refine .list fun v hv => ?_
      obtain ⟨⟨key, value⟩, -, rfl⟩ := List.mem_map.1 hv
      refine .list fun u hu => ?_
      rcases List.mem_pair.1 hu with rfl | rfl
      · exact ih key
      · exact ih value
    case h_4 pairs hid =>
      refine .map (hd.distinctKeys hid ?_) fun e he => ?_
      · rw [List.map_map]
        rfl
      · obtain ⟨⟨key, value⟩, -, rfl⟩ := List.mem_map.1 he
        exact ih value
    case h_5 => exact .set _

/-- What a document says sets no key twice. -/
theorem KeysApart.keyed_visible (hd : d.KeysApart) : d.visible.Keyed := by
  unfold visible
  cases h : d.value? with
  | none => exact hd.keyed_outlineOf _ _
  | some v => exact hd.keyed_valueOf? h

/-- A document that says a mapping says all its keys. -/
theorem visible_of_map {pairs : List (NodeId × NodeId)} (d : Document)
    (h : d.content d.root = .map pairs) :
    ∃ entries, d.visible = .map entries ∧
      entries.map Prod.fst = pairs.map fun e => d.scalarOf e.1 := by
  unfold visible
  cases hvalue : d.value? with
  | none =>
    rw [Option.getD_none, outlineDepth, outlineOf, h]
    exact ⟨_, rfl, List.map_map⟩
  | some v =>
    rw [value?, valueOf?, h] at hvalue
    obtain ⟨entries, hentries, hv⟩ := Option.bind_eq_some_iff.1 hvalue
    cases hv
    refine ⟨entries, rfl, map_eq_of_mapM (fun e b hb => ?_) hentries⟩
    obtain ⟨w, -, hb⟩ := Option.bind_eq_some_iff.1 hb
    cases hb
    rfl

end
end Document
end Yaml
end SearchQuery
