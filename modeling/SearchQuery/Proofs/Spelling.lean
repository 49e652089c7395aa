import SearchQuery.Grammar.Segment

/-!
# How query texts are spelled

The texts that spell a sequence of segments, said without the scan: runs of blanks, then a sign
or nothing, directly followed by a term or by a phrase between quotes, and so on to the end. Terms
and words are maximal, so that the next character decides where they end.
-/

namespace SearchQuery
namespace Grammar

/-- Blanks only, possibly none. -/
def IsGap (t : Text) : Prop := ∀ c ∈ t, Text.isBlank c = true

/-- Neither a blank nor a double quote. -/
def IsPlain (c : Char) : Prop := Text.isBlank c = false ∧ c ≠ '"'

def IsWord (t : Text) : Prop := t ≠ [] ∧ ∀ c ∈ t, IsPlain c

/-- A word that does not start with an operator symbol. -/
def IsTerm (t : Text) : Prop := IsWord t ∧ t.head? ≠ some '+' ∧ t.head? ≠ some '-'

instance (t : Text) : Decidable (IsGap t) := t.decidableBAll fun c => Text.isBlank c = true

instance (c : Char) : Decidable (IsPlain c) := inferInstanceAs (Decidable (_ ∧ _))

instance (t : Text) : Decidable (IsWord t) :=
  @instDecidableAnd _ _ inferInstance (t.decidableBAll IsPlain)

instance (t : Text) : Decidable (IsTerm t) := inferInstanceAs (Decidable (_ ∧ _))

/-- What may follow a word inside a phrase. -/
def EndsWord (rest : Text) : Prop := ∀ c, rest.head? = some c → Text.isBlank c = true

/-- What may follow a term. -/
def EndsTerm (rest : Text) : Prop := ∀ c, rest.head? = some c → Text.isBlank c = true ∨ c = '"'

/-- The text between two quotes spells words with blanks between them. -/
inductive SpellsWords : Text → List Text → Prop
  | gap {g} : IsGap g → SpellsWords g []
  | word {g w rest ws} : IsGap g → IsWord w → EndsWord rest → SpellsWords rest ws →
      SpellsWords (g ++ w ++ rest) (w :: ws)

inductive SpellsBody : Text → Written → Prop
  | term {t} : IsTerm t → SpellsBody t (.term t)
  | phrase {t ws} : SpellsWords t ws → SpellsBody ('"' :: t ++ ['"']) (.phrase ws)

/-- The character in front of a segment, if it has a sign. -/
def signText (sign : Option Sign) : Text := (sign.map Sign.char).toList

inductive Spells : Text → List Segment → Prop
  | gap {g} : IsGap g → Spells g []
  | segment {g sign t w rest ss} : IsGap g → SpellsBody t w →
      (∀ u, w = .term u → EndsTerm rest) → Spells rest ss →
      Spells (g ++ (signText sign ++ t) ++ rest) (⟨sign, w⟩ :: ss)

theorem isGap_nil : IsGap [] := by simp [IsGap]

theorem isGap_cons {c : Char} {t : Text} : IsGap (c :: t) ↔ Text.isBlank c = true ∧ IsGap t := by
  simp [IsGap]

theorem endsTerm_nil : EndsTerm [] := by simp [EndsTerm]

theorem endsTerm_cons {c : Char} {t : Text} :
    EndsTerm (c :: t) ↔ Text.isBlank c = true ∨ c = '"' := by simp [EndsTerm]

theorem endsWord_nil : EndsWord [] := by simp [EndsWord]

theorem endsWord_cons {c : Char} {t : Text} : EndsWord (c :: t) ↔ Text.isBlank c = true := by
  simp [EndsWord]

theorem isBlank_quote : Text.isBlank '"' = false := by decide

theorem ne_quote_of_isBlank {c : Char} (h : Text.isBlank c = true) : c ≠ '"' := by
  rintro rfl
  rw [isBlank_quote] at h
  cases h

theorem IsGap.quote_notMem {g : Text} (h : IsGap g) : '"' ∉ g :=
  fun hq => ne_quote_of_isBlank (h _ hq) rfl

theorem isPlain_or_endsTerm (c : Char) (t : Text) : IsPlain c ∨ EndsTerm (c :: t) := by
  rw [endsTerm_cons, IsPlain]
  by_cases hq : c = '"' <;> cases Text.isBlank c <;> simp [hq]

theorem IsPlain.not_ends {c : Char} (h : IsPlain c) : ¬ (Text.isBlank c = true ∨ c = '"') := by
  rintro (hb | hq)
  · rw [h.1] at hb
    cases hb
  · exact h.2 hq

/-- Every text starts with a run of plain characters that is as long as can be. -/
theorem exists_plain_append (t : Text) :
    ∃ w rest, t = w ++ rest ∧ (∀ c ∈ w, IsPlain c) ∧ EndsTerm rest := by
  induction t with
  | nil => exact ⟨[], [], rfl, by simp, endsTerm_nil⟩
  | cons c t ih =>
    rcases isPlain_or_endsTerm c t with hc | hc
    · obtain ⟨w, rest, rfl, hw, hrest⟩ := ih
      exact ⟨c :: w, rest, rfl, by simpa using ⟨hc, hw⟩, hrest⟩
    · exact ⟨[], c :: t, rfl, by simp, hc⟩

theorem isPlain_sign (s : Sign) : IsPlain s.char := by
  cases s <;> exact ⟨by decide, by decide⟩

theorem IsTerm.ofChar?_eq_none {c : Char} {t : Text} (h : IsTerm (c :: t)) :
    Sign.ofChar? c = none := by
  have hplus : c ≠ '+' := fun hc => h.2.1 (by simp [hc])
  have hminus : c ≠ '-' := fun hc => h.2.2 (by simp [hc])
  simp [Sign.ofChar?, hplus, hminus]

theorem isTerm_cons {c : Char} {t : Text} (hs : Sign.ofChar? c = none)
    (h : ∀ d ∈ c :: t, IsPlain d) : IsTerm (c :: t) := by
  refine ⟨⟨by simp, h⟩, ?_, ?_⟩ <;>
  · simp only [List.head?_cons, ne_eq, Option.some.injEq]
    rintro rfl
    simp [Sign.ofChar?] at hs

theorem signText_some (s : Sign) : signText (some s) = [s.char] := rfl

theorem SpellsWords.blank_cons {c : Char} {t : Text} {ws : List Text}
    (hc : Text.isBlank c = true) (h : SpellsWords t ws) : SpellsWords (c :: t) ws := by
  cases h with
  | gap hg => exact .gap (isGap_cons.2 ⟨hc, hg⟩)
  | word hg hw he hr => exact .word (isGap_cons.2 ⟨hc, hg⟩) hw he hr

theorem Spells.blank_cons {c : Char} {t : Text} {ss : List Segment} (hc : Text.isBlank c = true)
    (h : Spells t ss) : Spells (c :: t) ss := by
  cases h with
  | gap hg => exact .gap (isGap_cons.2 ⟨hc, hg⟩)
  | segment hg hb he hr => exact .segment (isGap_cons.2 ⟨hc, hg⟩) hb he hr

theorem wordsFrom_append_of_plain {current w rest : Text} (h : ∀ c ∈ w, IsPlain c) :
    Text.wordsFrom current (w ++ rest) = Text.wordsFrom (w.reverse ++ current) rest := by
  induction w generalizing current with
  | nil => rfl
  | cons c w ih =>
    have hc := h c (by simp)
    rw [List.cons_append, Text.wordsFrom, hc.1, if_neg Bool.false_ne_true,
      ih fun d hd => h d (by simp [hd])]
    simp

theorem wordsFrom_of_endsWord {current rest : Text} (hc : current ≠ []) (h : EndsWord rest) :
    Text.wordsFrom current rest = current.reverse :: Text.words rest := by
  cases rest with
  | nil => simp [Text.words, Text.wordsFrom, hc]
  | cons c rest => simp [Text.words, Text.wordsFrom, hc, endsWord_cons.1 h]

theorem words_append_of_isGap {g t : Text} (h : IsGap g) : Text.words (g ++ t) = Text.words t := by
  induction g with
  | nil => rfl
  | cons c g ih =>
    obtain ⟨hc, hg⟩ := isGap_cons.1 h
    simpa [Text.words, Text.wordsFrom, hc] using ih hg

theorem words_of_isGap {g : Text} (h : IsGap g) : Text.words g = [] := by
  simpa [Text.words, Text.wordsFrom] using words_append_of_isGap h (t := [])

theorem words_append_of_isWord {w rest : Text} (hw : IsWord w) (h : EndsWord rest) :
    Text.words (w ++ rest) = w :: Text.words rest := by
  rw [Text.words, wordsFrom_append_of_plain hw.2,
    wordsFrom_of_endsWord (by simpa using hw.1) h]
  simp

theorem SpellsWords.words_eq {t : Text} {ws : List Text} (h : SpellsWords t ws) :
    Text.words t = ws := by
  induction h with
  | gap hg => exact words_of_isGap hg
  | word hg hw he _ ih =>
    rw [List.append_assoc, words_append_of_isGap hg, words_append_of_isWord hw he, ih]

theorem SpellsWords.quote_notMem {t : Text} {ws : List Text} (h : SpellsWords t ws) :
    '"' ∉ t := by
  induction h with
  | gap hg => exact hg.quote_notMem
  | word hg hw _ _ ih =>
    simp only [List.mem_append, not_or]
    exact ⟨⟨hg.quote_notMem, fun hq => (hw.2 _ hq).2 rfl⟩, ih⟩

theorem SpellsWords.mem_isWord {t : Text} {ws : List Text} (h : SpellsWords t ws) {w : Text}
    (hw : w ∈ ws) : IsWord w := by
  induction h with
  | gap _ => simp at hw
  | word _ hu _ _ ih =>
    rcases List.mem_cons.1 hw with rfl | hw
    · exact hu
    · exact ih hw

theorem isWord_reverse {current : Text} (hne : current ≠ []) (h : ∀ c ∈ current, IsPlain c) :
    IsWord current.reverse :=
  ⟨by simpa using hne, by simpa using h⟩

/-- A text after the characters of an open word, last first, spells the words of both. -/
theorem spellsWords_wordsFrom {current t : Text} (hc : ∀ c ∈ current, IsPlain c)
    (ht : '"' ∉ t) : SpellsWords (current.reverse ++ t) (Text.wordsFrom current t) := by
  induction t generalizing current with
  | nil =>
    -- a word that is still open ends with the text
    by_cases h : current = []
    · subst h
      exact .gap isGap_nil
    · simpa [Text.wordsFrom, h] using
        SpellsWords.word isGap_nil (isWord_reverse h hc) endsWord_nil (.gap isGap_nil)
  | cons c t ih =>
    simp only [List.mem_cons, not_or] at ht
    cases hb : Text.isBlank c with
    | true =>
      have hrest : SpellsWords (c :: t) (Text.wordsFrom [] t) :=
        .blank_cons hb (@ih [] (by simp) ht.2)
      by_cases h : current = []
      · subst h
        simpa [Text.wordsFrom, hb] using hrest
      · simpa [Text.wordsFrom, hb, h] using
          SpellsWords.word isGap_nil (isWord_reverse h hc) (endsWord_cons.2 hb) hrest
    | false =>
      have hd : ∀ d ∈ c :: current, IsPlain d := by
        intro d hd
        rcases List.mem_cons.1 hd with rfl | hd
        · exact ⟨hb, Ne.symm ht.1⟩
        · exact hc d hd
      simpa [Text.wordsFrom, hb] using ih hd ht.2

theorem spellsWords_words {t : Text} (h : '"' ∉ t) : SpellsWords t (Text.words t) :=
  @spellsWords_wordsFrom [] t (by simp) h

end Grammar
end SearchQuery
