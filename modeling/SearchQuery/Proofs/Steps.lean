import Mathlib.Order.Defs.Unbundled

/-!
# Steps that can fail

Steps that read and change a state and can fail, and what they do to the state whenever they come to
an end. A relation that is kept by single steps is kept by all that are put together from them.
-/

namespace SearchQuery

variable {σ ε α β : Type}

theorem bind_eq_ok_iff {x : Except ε α} {f : α → Except ε β} {b : β} :
    x >>= f = .ok b ↔ ∃ a, x = .ok a ∧ f a = .ok b := by
  cases x <;> simp [bind, Except.bind]

theorem bind_eq_error_iff {x : Except ε α} {f : α → Except ε β} {e : ε} :
    x >>= f = .error e ↔ x = .error e ∨ ∃ a, x = .ok a ∧ f a = .error e := by
  cases x <;> simp [bind, Except.bind]

@[simp] theorem ok_bind (a : α) (f : α → Except ε β) : (Except.ok a >>= f) = f a := rfl

@[simp] theorem error_bind (e : ε) (f : α → Except ε β) : (Except.error e >>= f) = .error e := rfl

/-- The first in a row with some property, when all in front of it have another. -/
theorem exists_first_cons_iff {P Q : α → Prop} {a : α} {as : List α} :
    (∃ before x after, a :: as = before ++ x :: after ∧ (∀ b ∈ before, P b) ∧ Q x) ↔
      Q a ∨ P a ∧ ∃ before x after, as = before ++ x :: after ∧ (∀ b ∈ before, P b) ∧ Q x := by
  constructor
  · rintro ⟨before, x, after, heq, hbefore, hx⟩
    cases before with
    | nil =>
      cases heq
      exact .inl hx
    | cons b before =>
      cases heq
      have hall := List.forall_mem_cons.1 hbefore
      exact .inr ⟨hall.1, before, x, after, rfl, hall.2, hx⟩
  · rintro (ha | ⟨ha, before, x, after, rfl, hbefore, hx⟩)
    · exact ⟨[], a, as, rfl, by simp, ha⟩
    · exact ⟨a :: before, x, after, rfl, List.forall_mem_cons.2 ⟨ha, hbefore⟩, hx⟩

theorem exists_of_toOption_any {x : Except ε α} {p : α → Bool} (h : x.toOption.any p = true) :
    ∃ a, x = .ok a ∧ p a = true := by
  cases x with
  | error e => cases h
  | ok a => exact ⟨a, rfl, h⟩

namespace Steps

theorem bind_eq_ok {x : StateT σ (Except ε) α} {f : α → StateT σ (Except ε) β} {s t : σ} {b : β} :
    (x >>= f) s = .ok (b, t) ↔ ∃ a u, x s = .ok (a, u) ∧ f a u = .ok (b, t) := by
  change (x s >>= fun p => f p.1 p.2) = _ ↔ _
  rw [bind_eq_ok_iff, Prod.exists]

/-- If the step comes to an end from a state, then in a related one. -/
def From (R : σ → σ → Prop) (s : σ) (step : StateT σ (Except ε) α) : Prop :=
  ∀ a t, step s = .ok (a, t) → R s t

/-- Wherever the step starts, it ends in a related state. -/
def Preserves (R : σ → σ → Prop) (step : StateT σ (Except ε) α) : Prop := ∀ s, From R s step

/-- A step that only looks can be left out. -/
theorem from_bind_of_eq {R : σ → σ → Prop} {x : StateT σ (Except ε) α}
    {f : α → StateT σ (Except ε) β} {s : σ} (hx : Preserves Eq x) (hf : ∀ a, From R s (f a)) :
    From R s (x >>= f) := by
  intro b t h
  obtain ⟨a, u, hxa, hfa⟩ := bind_eq_ok.1 h
  obtain rfl := hx s a u hxa
  exact hf a b t hfa

theorem preserves_throw {R : σ → σ → Prop} (e : ε) :
    Preserves R (throw e : StateT σ (Except ε) α) := by
  rintro s b t ⟨⟩

/-- What every step of a fold keeps is kept by the fold. -/
theorem foldlM_keeps {motive : β → σ → Prop} {f : β → α → StateT σ (Except ε) β}
    (hf : ∀ b a s b' t, motive b s → f b a s = .ok (b', t) → motive b' t) {items : List α}
    {b b' : β} {s t : σ} (hs : motive b s) (h : items.foldlM f b s = .ok (b', t)) :
    motive b' t := by
  induction items generalizing b s with
  | nil =>
    cases h
    exact hs
  | cons a items ih =>
    rw [List.foldlM_cons] at h
    obtain ⟨b₁, u, ha, h⟩ := bind_eq_ok.1 h
    exact ih (hf b a s b₁ u hs ha) h

section

variable {R : σ → σ → Prop} [IsPreorder σ R]

theorem preserves_pure (a : α) : Preserves R (pure a : StateT σ (Except ε) α) := by
  rintro s b t ⟨⟩
  exact refl_of R s

theorem preserves_get : Preserves R (get : StateT σ (Except ε) σ) := by
  rintro s b t ⟨⟩
  exact refl_of R s

theorem Preserves.bind {x : StateT σ (Except ε) α} {f : α → StateT σ (Except ε) β}
    (hx : Preserves R x) (hf : ∀ a, Preserves R (f a)) : Preserves R (x >>= f) := by
  intro s b t h
  obtain ⟨a, u, hxa, hfa⟩ := bind_eq_ok.1 h
  exact trans_of R (hx s a u hxa) (hf a u b t hfa)

theorem preserves_forM {f : α → StateT σ (Except ε) PUnit} (hf : ∀ a, Preserves R (f a))
    (items : List α) : Preserves R (items.forM f) := by
  induction items with
  | nil => exact preserves_pure _
  | cons a items ih => exact (hf a).bind fun _ => ih

theorem preserves_mapM {f : α → StateT σ (Except ε) β} (hf : ∀ a, Preserves R (f a))
    (items : List α) : Preserves R (items.mapM f) := by
  induction items with
  | nil => exact preserves_pure _
  | cons a items ih =>
    rw [List.mapM_cons]
    exact (hf a).bind fun _ => ih.bind fun _ => preserves_pure _

theorem preserves_findM? {f : α → StateT σ (Except ε) Bool} (hf : ∀ a, Preserves R (f a))
    (items : List α) : Preserves R (items.findM? f) := by
  induction items with
  | nil => exact preserves_pure _
  | cons a items ih =>
    refine (hf a).bind fun found => ?_
    cases found with
    | true => exact preserves_pure _
    | false => exact ih

end
end Steps
end SearchQuery
