import Mathlib.Data.List.DropRight
import SearchQuery.Text.Blank

/-!
# Trimmed texts

Trimming takes off the longest runs of blanks at both ends. What is left starts and ends with other
characters, and is all of a text that does so already.
-/

namespace SearchQuery
namespace Text

/-- No blank stands at either end. -/
def IsTrimmed (t : Text) : Prop :=
  ∀ c, t.head? = some c ∨ t.getLast? = some c → isBlank c = false

/-- Not all characters are blanks. -/
def HasContent (t : Text) : Prop := ∃ c ∈ t, isBlank c = false

theorem isBlank_head?_trimStart {t : Text} {c : Char} (h : t.trimStart.head? = some c) :
    isBlank c = false := by
  have hc := List.head?_dropWhile_not isBlank t
  rw [← trimStart, h] at hc
  simpa using hc

theorem trimStart_of_head? {t : Text} (h : ∀ c, t.head? = some c → isBlank c = false) :
    t.trimStart = t := by
  cases t with
  | nil => rfl
  | cons c rest => rw [trimStart, List.dropWhile_cons_of_neg (by simp [h c rfl])]

theorem trim_prefix (t : Text) : t.trim <+: t.trimStart :=
  List.rdropWhile_prefix isBlank t.trimStart

theorem isTrimmed_trim (t : Text) : t.trim.IsTrimmed := by
  rintro c (hc | hc)
  · obtain ⟨rest, hrest⟩ := t.trim_prefix
    have hhead : t.trimStart.head? = some c := by
      rw [← hrest, List.head?_append, hc]
      rfl
    exact isBlank_head?_trimStart hhead
  · rw [trim, List.getLast?_reverse] at hc
    exact isBlank_head?_trimStart hc

theorem trim_of_isTrimmed {t : Text} (h : t.IsTrimmed) : t.trim = t := by
  have hstart : t.trimStart = t := trimStart_of_head? fun c hc => h c (.inl hc)
  have hend : trimStart t.reverse = t.reverse :=
    trimStart_of_head? fun c hc => h c (.inr (by rwa [List.head?_reverse] at hc))
  rw [trim, hstart, hend, List.reverse_reverse]

theorem trimStart_eq_nil_iff {t : Text} : t.trimStart = [] ↔ ∀ c ∈ t, isBlank c = true :=
  List.dropWhile_eq_nil_iff

/-- Nothing is left of a text exactly if it is all blanks. -/
theorem trim_ne_nil_iff {t : Text} : t.trim ≠ [] ↔ t.HasContent := by
  have hstart : t.trim = [] ↔ t.trimStart = [] := by
    constructor
    · intro h
      rw [trim, List.reverse_eq_nil_iff, trimStart_eq_nil_iff] at h
      rw [List.eq_nil_iff_forall_not_mem]
      intro c hc
      obtain ⟨d, rest, hcons⟩ := List.exists_cons_of_ne_nil (List.ne_nil_of_mem hc)
      have hd := isBlank_head?_trimStart (congrArg List.head? hcons)
      rw [h d (by simp [hcons])] at hd
      cases hd
    · intro h
      rw [trim, h]
      rfl
  rw [Ne, hstart, trimStart_eq_nil_iff, HasContent]
  simp

end Text
end SearchQuery
