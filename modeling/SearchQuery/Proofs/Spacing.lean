import SearchQuery.Proofs.LooseOperators
import SearchQuery.Proofs.NeutralForms
import SearchQuery.Proofs.Writing

/-!
# Blanks between words

How a text is read depends on its words alone: which blanks stand between them, and how many, does
not matter, inside phrases or outside. The scan is followed word by word. Between two words it
rests, and further blanks change nothing; a word that has been begun is finished by any blank, and by
the end of the text no less.
-/

namespace SearchQuery
namespace Grammar

theorem words_blank_cons {c : Char} (hc : Text.isBlank c = true) (t : Text) :
    Text.words (c :: t) = Text.words t := by
  simp [Text.words, Text.wordsFrom, hc]

/-- The words hold the characters that are no blanks. -/
theorem flatten_wordsFrom (current t : Text) :
    (Text.wordsFrom current t).flatten =
      current.reverse ++ t.filter fun c => !Text.isBlank c := by
  induction t generalizing current with
  | nil => by_cases h : current = [] <;> simp [Text.wordsFrom, h]
  | cons c t ih =>
    rw [Text.wordsFrom]
    cases hb : Text.isBlank c with
    | true => by_cases h : current = [] <;> simp [ih, h, hb]
    | false => simp [ih, hb]

theorem flatten_words (t : Text) :
    (Text.words t).flatten = t.filter fun c => !Text.isBlank c :=
  flatten_wordsFrom [] t

theorem isGap_of_words {t : Text} (h : Text.words t = []) : IsGap t := by
  have hnone : t.filter (fun c => !Text.isBlank c) = [] := by
    rw [← flatten_words, h, List.flatten_nil]
  simpa [IsGap] using hnone

/-- The double quotes of a text are those of its words. -/
theorem count_quote_eq (t : Text) : t.count '"' = (Text.words t).flatten.count '"' := by
  rw [flatten_words, List.count_filter]
  simp [isBlank_quote]

/-- A word that has been begun goes on up to a blank or to the end. -/
theorem exists_of_wordsFrom {current t w : Text} {ws : List Text} (hc : current ≠ [])
    (h : Text.wordsFrom current t = w :: ws) :
    ∃ v rest, t = v ++ rest ∧ w = current.reverse ++ v ∧ EndsWord rest ∧
      Text.words rest = ws := by
  induction t generalizing current with
  | nil =>
    have hw : [current.reverse] = w :: ws := by simpa [Text.wordsFrom, hc] using h
    cases hw
    exact ⟨[], [], rfl, by simp, endsWord_nil, rfl⟩
  | cons c t ih =>
    cases hb : Text.isBlank c with
    | true =>
      have hw : current.reverse :: Text.words t = w :: ws := by
        simpa [Text.wordsFrom, hb, hc, Text.words] using h
      cases hw
      exact ⟨[], c :: t, rfl, by simp, endsWord_cons.2 hb, words_blank_cons hb t⟩
    | false =>
      have hw : Text.wordsFrom (c :: current) t = w :: ws := by
        simpa [Text.wordsFrom, hb] using h
      obtain ⟨v, rest, rfl, rfl, he, hrest⟩ := ih (by simp) hw
      exact ⟨c :: v, rest, rfl, by simp, he, hrest⟩

/-- The first word stands behind blanks and in front of a blank or the end. -/
theorem exists_of_words {t w : Text} {ws : List Text} (h : Text.words t = w :: ws) :
    ∃ g rest, t = g ++ (w ++ rest) ∧ IsGap g ∧ EndsWord rest ∧ Text.words rest = ws := by
  induction t with
  | nil => cases h
  | cons c t ih =>
    cases hb : Text.isBlank c with
    | true =>
      rw [words_blank_cons hb] at h
      obtain ⟨g, rest, rfl, hg, he, hrest⟩ := ih h
      exact ⟨c :: g, rest, rfl, isGap_cons.2 ⟨hb, hg⟩, he, hrest⟩
    | false =>
      have hw : Text.wordsFrom [c] t = w :: ws := by
        simpa [Text.words, Text.wordsFrom, hb] using h
      obtain ⟨v, rest, rfl, rfl, he, hrest⟩ := exists_of_wordsFrom (by simp) hw
      exact ⟨[], rest, by simp, isGap_nil, he, hrest⟩

/-! ## How reading ends -/

/-- How reading ends: with segments, at a sign without a body, or inside a phrase. -/
inductive Ending where
  | complete (segments : List Segment)
  | loose (sign : Sign)
  | unpaired

/-- The ending if nothing more can be read. -/
def Partial.ending (finished : List Segment) : Partial → Ending
  | .gap => .complete finished.reverse
  | .signed sign => .loose sign
  | .inTerm sign chars => .complete (Scan.closeTerm sign chars :: finished).reverse
  | .inPhrase _ _ _ => .unpaired

/-- The ending of the rest of a text. Offsets do not matter. -/
def endingFrom (finished : List Segment) (begun : Partial) : Text → Ending
  | [] => begun.ending finished
  | c :: t =>
    match Scan.step ⟨0, finished, begun⟩ c with
    | .ok u => endingFrom u.finished u.begun t
    | .error _ => begun.ending finished

def ending (text : Text) : Ending := endingFrom [] .gap text

variable {finished : List Segment} {begun : Partial}

theorem step_ok_offset {offset : Nat} {c : Char} {u : Scan}
    (h : Scan.step ⟨offset, finished, begun⟩ c = .ok u) :
    Scan.step ⟨0, finished, begun⟩ c = .ok ⟨1, u.finished, u.begun⟩ := by
  cases begun <;> grind [Scan.step]

theorem endingFrom_cons_of_ok (offset : Nat) {c : Char} {u : Scan}
    (h : Scan.step ⟨offset, finished, begun⟩ c = .ok u) (t : Text) :
    endingFrom finished begun (c :: t) = endingFrom u.finished u.begun t := by
  rw [endingFrom, step_ok_offset h]

theorem endingFrom_signed {s : Sign} {rest : Text} (h : NoBody rest) :
    endingFrom finished (.signed s) rest = .loose s := by
  cases rest with
  | nil => rfl
  | cons c t =>
    rw [endingFrom, Scan.step_signed_error (h c rfl)]
    rfl

/-- Reading goes on to the end of a text, or to a sign without a body. -/
theorem exists_run (s : Scan) (t : Text) :
    ∃ a rest u, t = a ++ rest ∧ s.run a = .ok u ∧
      endingFrom s.finished s.begun t = u.begun.ending u.finished ∧
      (rest = [] ∨ (∃ sign, u.begun = .signed sign) ∧ NoBody rest) := by
  induction t generalizing s with
  | nil => exact ⟨[], [], s, rfl, rfl, rfl, .inl rfl⟩
  | cons c t ih =>
    cases hs : s.step c with
    | error n =>
      obtain ⟨-, ⟨sign, hsign⟩, hc⟩ := Scan.step_eq_error hs
      have hn : NoBody (c :: t) := by
        intro d hd
        cases hd
        exact hc
      refine ⟨[], c :: t, s, rfl, rfl, ?_, .inr ⟨⟨sign, hsign⟩, hn⟩⟩
      rw [hsign, endingFrom_signed hn]
      rfl
    | ok v =>
      obtain ⟨a, rest, u, rfl, hu, he, hrest⟩ := ih v
      refine ⟨c :: a, rest, u, rfl, Scan.run_cons_eq_ok.2 ⟨v, hs, hu⟩, ?_, hrest⟩
      rw [← he]
      exact endingFrom_cons_of_ok _ hs _

/-- Where a blank changes nothing: between two segments, or between two words of a phrase. -/
def Partial.Rests : Partial → Prop
  | .gap => True
  | .inPhrase _ _ chars => chars = []
  | .signed _ | .inTerm _ _ => False

theorem endingFrom_blank_cons {c : Char} (h : begun.Rests) (hc : Text.isBlank c = true)
    (t : Text) : endingFrom finished begun (c :: t) = endingFrom finished begun t := by
  cases begun with
  | gap => exact endingFrom_cons_of_ok 0 (Scan.step_gap_blank hc) t
  | signed | inTerm => exact h.elim
  | inPhrase sign words chars =>
    obtain rfl : chars = [] := h
    exact endingFrom_cons_of_ok 0 (Scan.step_inPhrase_blank hc) t

theorem endingFrom_gap_append {g : Text} (h : begun.Rests) (hg : IsGap g) (t : Text) :
    endingFrom finished begun (g ++ t) = endingFrom finished begun t := by
  induction g with
  | nil => rfl
  | cons c g ih =>
    obtain ⟨hc, hg⟩ := isGap_cons.1 hg
    rw [List.cons_append, endingFrom_blank_cons h hc, ih hg]

/-- Reading ends within a text, or it goes on behind it from wherever it stands then. -/
theorem endingFrom_append (finished : List Segment) (begun : Partial) (w : Text) :
    (∃ e, ∀ rest, endingFrom finished begun (w ++ rest) = e) ∨
      ∃ finished' begun', ∀ rest,
        endingFrom finished begun (w ++ rest) = endingFrom finished' begun' rest := by
  induction w generalizing finished begun with
  | nil => exact .inr ⟨finished, begun, fun _ => rfl⟩
  | cons c w ih =>
    simp only [List.cons_append, endingFrom]
    cases Scan.step ⟨0, finished, begun⟩ c with
    | error n => exact .inl ⟨_, fun _ => rfl⟩
    | ok u => exact ih u.finished u.begun

/-- Where a word ends, a sign is left without a body; anything else comes to rest. -/
theorem endingFrom_endsWord (finished : List Segment) (begun : Partial) :
    (∃ e, ∀ rest, EndsWord rest → endingFrom finished begun rest = e) ∨
      ∃ finished' begun', begun'.Rests ∧ ∀ rest, EndsWord rest →
        endingFrom finished begun rest = endingFrom finished' begun' rest := by
  cases begun with
  | gap => exact .inr ⟨finished, .gap, trivial, fun _ _ => rfl⟩
  | signed s =>
    refine .inl ⟨.loose s, ?_⟩
    intro rest he
    exact endingFrom_signed fun c hc => .inl (he c hc)
  | inTerm sign chars =>
    have hrests : Partial.Rests .gap := trivial
    refine .inr ⟨Scan.closeTerm sign chars :: finished, .gap, hrests, ?_⟩
    intro rest he
    cases rest with
    | nil => rfl
    | cons c rest =>
      have hc := endsWord_cons.1 he
      rw [endingFrom_blank_cons hrests hc]
      exact endingFrom_cons_of_ok 0 (Scan.step_inTerm_blank hc) rest
  | inPhrase sign words chars =>
    have hrests : Partial.Rests (.inPhrase sign (Scan.closeWord words chars) []) := rfl
    refine .inr ⟨finished, .inPhrase sign (Scan.closeWord words chars) [], hrests, ?_⟩
    intro rest he
    cases rest with
    | nil => rfl
    | cons c rest =>
      have hc := endsWord_cons.1 he
      rw [endingFrom_blank_cons hrests hc]
      exact endingFrom_cons_of_ok 0 (Scan.step_inPhrase_blank hc) rest

theorem endingFrom_word (finished : List Segment) (begun : Partial) (w : Text) :
    (∃ e, ∀ rest, EndsWord rest → endingFrom finished begun (w ++ rest) = e) ∨
      ∃ finished' begun', begun'.Rests ∧ ∀ rest, EndsWord rest →
        endingFrom finished begun (w ++ rest) = endingFrom finished' begun' rest := by
  rcases endingFrom_append finished begun w with ⟨e, he⟩ | ⟨finished', begun', h⟩
  · exact .inl ⟨e, fun rest _ => he rest⟩
  · simp only [h]
    exact endingFrom_endsWord finished' begun'

/-- Where the scan rests, texts with the same words have the same ending. -/
theorem endingFrom_eq_of_words {t u : Text} (hr : begun.Rests)
    (h : Text.words t = Text.words u) :
    endingFrom finished begun t = endingFrom finished begun u := by
  induction ht : Text.words t generalizing finished begun t u with
  | nil =>
    rw [← List.append_nil t, endingFrom_gap_append hr (isGap_of_words ht), ← List.append_nil u,
      endingFrom_gap_append hr (isGap_of_words (h.symm.trans ht))]
  | cons w ws ih =>
    obtain ⟨g, r, rfl, hg, her, hwr⟩ := exists_of_words ht
    obtain ⟨g', r', rfl, hg', her', hwr'⟩ := exists_of_words (h.symm.trans ht)
    rw [endingFrom_gap_append hr hg, endingFrom_gap_append hr hg']
    rcases endingFrom_word finished begun w with ⟨e, he⟩ | ⟨finished', begun', hr', hw⟩
    · rw [he r her, he r' her']
    · rw [hw r her, hw r' her']
      exact ih hr' (hwr.trans hwr'.symm) hwr

theorem ending_eq_of_words {t u : Text} (h : Text.words t = Text.words u) :
    ending t = ending u := by
  have hrests : Partial.Rests .gap := trivial
  exact endingFrom_eq_of_words hrests h

/-! ## What the ending says of a text -/

theorem spells_of_complete {text : Text} {ss : List Segment} (h : ending text = .complete ss) :
    Spells text ss := by
  obtain ⟨a, rest, ⟨offset, finished, begun⟩, rfl, hu, he, hrest⟩ := exists_run Scan.start text
  have hending : begun.ending finished = .complete ss := he.symm.trans h
  have hsigned : ¬ ∃ sign, begun = .signed sign := by
    rintro ⟨sign, rfl⟩
    cases hending
  obtain rfl : rest = [] := by
    rcases hrest with hnil | ⟨hsign, -⟩
    · exact hnil
    · exact absurd hsign hsigned
  rw [List.append_nil, ← segments_eq_ok_iff, segments, hu]
  cases begun with
  | gap | inTerm =>
    cases hending
    rfl
  | signed | inPhrase => cases hending

theorem odd_of_unpaired {text : Text} (h : ending text = .unpaired) :
    text.count '"' % 2 = 1 := by
  obtain ⟨a, rest, ⟨offset, finished, begun⟩, rfl, hu, he, hrest⟩ := exists_run Scan.start text
  have hending : begun.ending finished = .unpaired := he.symm.trans h
  have hfits := fits_of_run hu
  cases begun with
  | gap | inTerm | signed => cases hending
  | inPhrase sign words chars =>
    rcases hrest with rfl | ⟨⟨sign', hsign⟩, -⟩
    · rw [List.append_nil]
      exact hfits
    · cases hsign

/-- A sign that is left without a body is to blame, unless a quote is. -/
theorem firstLooseAt_of_loose {text : Text} {s : Sign} (h : ending text = .loose s) :
    ∃ i, FirstLooseAt text i ∧ text[i]? = some s.char := by
  obtain ⟨a, rest, ⟨offset, finished, begun⟩, rfl, hu, he, hrest⟩ := exists_run Scan.start text
  have hending : begun.ending finished = .loose s := he.symm.trans h
  cases begun with
  | gap | inTerm | inPhrase => cases hending
  | signed sign =>
    cases hending
    have hn : NoBody rest := by
      rcases hrest with rfl | ⟨-, hn⟩
      · exact noBody_nil
      · exact hn
    obtain ⟨before, rfl, -, hfirst⟩ := firstLooseAt_of_signed hu rfl hn
    exact ⟨before.length, hfirst, by simp⟩

theorem parse_error_of_loose {text : Text} {s : Sign} (h : ending text = .loose s)
    (heven : text.count '"' % 2 = 0) :
    ∃ r, parse text = .error r ∧ r.reason = .looseOperator s.char := by
  obtain ⟨i, hi, hs⟩ := firstLooseAt_of_loose h
  exact ⟨_, parse_eq_error_iff.2 (.inr ⟨heven, i, s, hi, hs, rfl⟩), rfl⟩

/-- Texts with the same words are read alike: they have the same clauses, hence the same query and
the same compiled bodies, or they are rejected for the same reason. -/
theorem parse_of_words (t u : Text) (h : Text.words t = Text.words u) :
    (Accepted t ∧ Accepted u ∧
      ∃ cs q, clauses t = .ok cs ∧ clauses u = .ok cs ∧
        Query.parse t = .ok q ∧ Query.parse u = .ok q ∧
        ∀ backend : Backend, ∃ body, (Query.parse t >>= backend.compile) = .ok body ∧
          (Query.parse u >>= backend.compile) = .ok body) ∨
    ∃ r r', parse t = .error r ∧ parse u = .error r' ∧ r.reason = r'.reason := by
  have hending : ending t = ending u := ending_eq_of_words h
  have hcount : t.count '"' = u.count '"' := by
    rw [count_quote_eq, h, ← count_quote_eq]
  rcases Nat.mod_two_eq_zero_or_one (t.count '"') with heven | hodd
  · cases he : ending t with
    | complete ss =>
      have ht := clauses_of_spells (spells_of_complete he)
      have hu := clauses_of_spells (spells_of_complete (hending.symm.trans he))
      have hqt := query_parse_of_clauses ht
      have hqu := query_parse_of_clauses hu
      refine .inl ⟨accepted_iff_clauses.2 ⟨_, ht⟩, accepted_iff_clauses.2 ⟨_, hu⟩, _, _,
        ht, hu, hqt, hqu, ?_⟩
      intro backend
      rw [hqt, hqu]
      obtain ⟨body, hbody⟩ := Query.exists_compile_grouped (ss.map Segment.clause) backend
      exact ⟨body, hbody, hbody⟩
    | loose s =>
      obtain ⟨r, hr, hreason⟩ := parse_error_of_loose he heven
      obtain ⟨r', hr', hreason'⟩ := parse_error_of_loose (hending.symm.trans he) (hcount ▸ heven)
      exact .inr ⟨r, r', hr, hr', hreason.trans hreason'.symm⟩
    | unpaired =>
      have := odd_of_unpaired he
      omega
  · obtain ⟨i, -, hr⟩ := parse_error_odd hodd
    obtain ⟨j, -, hr'⟩ := parse_error_odd (hcount ▸ hodd)
    exact .inr ⟨_, _, hr, hr', rfl⟩

def narrow : Text := "+a \"b -c\" d"

def wide : Text := "\t+a\n\"b \u3000 -c\"\u2028d "

theorem parse_of_words_spaced :
    Text.words narrow = Text.words wide ∧
    (∃ cs, clauses narrow = .ok cs ∧ clauses wide = .ok cs) ∧
    Text.words "a -" = Text.words "a\n- " ∧
    ∃ r r', parse "a -" = .error r ∧ parse "a\n- " = .error r' ∧ r.reason = r'.reason := by
  have hwords : Text.words narrow = Text.words wide := by decide
  have hloose : Text.words "a -" = Text.words "a\n- " := by decide
  refine ⟨hwords, ?_, hloose, ?_⟩
  · rcases parse_of_words narrow wide hwords with ⟨-, -, cs, -, ht, hu, -⟩ | ⟨r, -, hr, -⟩
    · exact ⟨cs, ht, hu⟩
    · obtain ⟨tree, htree⟩ : Accepted narrow := ⟨_, rfl⟩
      rw [htree] at hr
      cases hr
  · rcases parse_of_words _ _ hloose with ⟨⟨tree, htree⟩, -⟩ | hrejected
    · cases htree
    · exact hrejected

end Grammar
end SearchQuery
