import Mathlib.Tactic.SplitIfs
import SearchQuery.Grammar.Rejection
import SearchQuery.Text.LineBreak

/-!
# Texts on one line

A text without line breaks is one line wherever it is written. A quoted text is always on one line:
every line break is a character that is not printable, so it is written as an escape. Numbers and
the messages that are built from both are on one line as well.
-/

namespace SearchQuery
namespace Text

def OneLine (t : Text) : Prop := ∀ c ∈ t, isLineBreak c = false

instance (t : Text) : Decidable (OneLine t) := t.decidableBAll fun c => isLineBreak c = false

theorem oneLine_nil : OneLine [] := by simp [OneLine]

theorem oneLine_cons {c : Char} {t : Text} :
    OneLine (c :: t) ↔ isLineBreak c = false ∧ OneLine t := by
  simp [OneLine]

theorem oneLine_append {s t : Text} : OneLine (s ++ t) ↔ OneLine s ∧ OneLine t := by
  simp [OneLine, or_imp, forall_and]

theorem oneLine_flatMap {s : Text} {f : Char → Text} (h : ∀ c ∈ s, OneLine (f c)) :
    OneLine (s.flatMap f) := by
  intro c hc
  obtain ⟨d, hd, hmem⟩ := List.mem_flatMap.1 hc
  exact h d hd c hmem

theorem oneLine_joinWith {separator : Text} {parts : List Text} (hs : OneLine separator)
    (h : ∀ t ∈ parts, OneLine t) : OneLine (joinWith separator parts) := by
  induction parts with
  | nil => exact oneLine_nil
  | cons t parts ih =>
    have ht := h t (by simp)
    have hparts := ih fun u hu => h u (by simp [hu])
    cases parts with
    | nil => rwa [joinWith_singleton]
    | cons u parts =>
      rw [joinWith_cons_cons, oneLine_append, oneLine_append]
      exact ⟨⟨ht, hs⟩, hparts⟩

theorem not_isLineBreak_of_isDigit {c : Char} (h : c.isDigit = true) : isLineBreak c = false := by
  have hrange : 48 ≤ c.toNat ∧ c.toNat ≤ 57 := by
    simpa [Char.isDigit, Char.le_def, UInt32.le_iff_toNat_le] using h
  simp [isLineBreak]
  omega

theorem oneLine_ofNat (n : Nat) : OneLine (ofNat n) := by
  intro c hc
  exact not_isLineBreak_of_isDigit (Nat.isDigit_of_mem_toDigits (by decide) (by decide) hc)

theorem oneLine_ofInt (i : Int) : OneLine (ofInt i) := by
  unfold ofInt
  split
  · exact oneLine_cons.2 ⟨by decide, oneLine_ofNat _⟩
  · exact oneLine_ofNat _

theorem not_isLineBreak_digitChar {n : Nat} (h : n < 16) :
    isLineBreak (Nat.digitChar n) = false := by
  revert n
  decide

theorem oneLine_hexDigits (width n : Nat) : OneLine (hexDigits width n) := by
  induction width generalizing n with
  | zero => exact oneLine_nil
  | succ width ih =>
    rw [hexDigits, oneLine_append]
    have hdigit : isLineBreak (hexDigit n) = false :=
      not_isLineBreak_digitChar (Nat.mod_lt n (by decide))
    exact ⟨ih _, oneLine_cons.2 ⟨hdigit, oneLine_nil⟩⟩

theorem oneLine_hexEscape (c : Char) : OneLine (hexEscape c) := by
  have hescape (kind : Char) (width : Nat) (h : isLineBreak kind = false) :
      OneLine ('\\' :: kind :: hexDigits width c.toNat) := by
    rw [oneLine_cons, oneLine_cons]
    exact ⟨by decide, h, oneLine_hexDigits _ _⟩
  unfold hexEscape
  dsimp only
  split_ifs
  · exact hescape 'x' 2 (by decide)
  · exact hescape 'u' 4 (by decide)
  · exact hescape 'U' 8 (by decide)

/-- No character that ends a line is printable. -/
theorem not_isPrintable_of_isLineBreak {c : Char} (h : isLineBreak c = true) :
    isPrintable c = false := by
  simp only [isLineBreak, Bool.or_eq_true, Bool.and_eq_true, decide_eq_true_eq, beq_iff_eq] at h
  unfold isPrintable
  dsimp only
  -- below the space no character is printable; the three others are looked up
  rcases h with (((h | h) | h) | h) | h
  · rw [if_pos (by omega), decide_eq_false_iff_not]
    omega
  · rw [if_pos (by omega), decide_eq_false_iff_not]
    omega
  all_goals
    rw [h]
    decide +kernel

theorem not_isLineBreak_of_isPrintable {c : Char} (h : isPrintable c = true) :
    isLineBreak c = false := by
  cases hbreak : isLineBreak c with
  | false => rfl
  | true =>
    rw [not_isPrintable_of_isLineBreak hbreak] at h
    cases h

theorem oneLine_escapeWithin {mark : Char} (hmark : isLineBreak mark = false) (c : Char) :
    OneLine (escapeWithin mark c) := by
  unfold escapeWithin
  split_ifs with hescaped hfeed hreturn htab hprintable
  · have hc : isLineBreak c = false := by
      rcases hescaped with rfl | rfl
      · exact hmark
      · decide
    exact oneLine_cons.2 ⟨by decide, oneLine_cons.2 ⟨hc, oneLine_nil⟩⟩
  · decide
  · decide
  · decide
  · exact oneLine_cons.2 ⟨not_isLineBreak_of_isPrintable hprintable, oneLine_nil⟩
  · exact oneLine_hexEscape c

theorem oneLine_quoted (s : Text) : OneLine (quoted s) := by
  have hmark : isLineBreak (quotationMark s) = false := by
    unfold quotationMark
    split
    · decide
    · decide
  have hinner : OneLine (s.flatMap (escapeWithin (quotationMark s))) :=
    oneLine_flatMap fun c _ => oneLine_escapeWithin hmark c
  unfold quoted
  dsimp only
  rw [List.cons_append, oneLine_cons, oneLine_append]
  exact ⟨hmark, hinner, oneLine_cons.2 ⟨hmark, oneLine_nil⟩⟩

end Text

theorem Reason.oneLine_description {r : Reason} (h : ∀ d, r ≠ .other d) :
    r.description.OneLine := by
  cases r with
  | unterminatedQuote | unexpectedInput => decide
  | looseOperator symbol =>
    unfold description
    dsimp only
    rw [Text.oneLine_append, Text.oneLine_append]
    exact ⟨⟨by decide, Text.oneLine_quoted _⟩, by decide⟩
  | other d => exact absurd rfl (h d)

theorem Rejection.oneLine_message {r : Rejection} (h : r.reason.description.OneLine) :
    r.message.OneLine := by
  unfold message
  split
  · rw [Text.oneLine_append]
    exact ⟨by decide, h⟩
  · simp only [Text.oneLine_append]
    exact ⟨⟨⟨⟨⟨⟨by decide, h⟩, by decide⟩, Text.oneLine_ofInt _⟩, by decide⟩,
      Text.oneLine_quoted _⟩, by decide⟩

end SearchQuery
