import SearchQuery.Proofs.ParseTrees

/-!
# Operator symbols without a body

A text with paired quotes is rejected exactly if some operator symbol that could begin a segment
has no body behind it, and the first such symbol is blamed. The scan stops at this symbol or one
character later, and the character before it is no operator symbol, so looking at the two places
always finds the right one.
-/

namespace SearchQuery

namespace Text

theorem exists_lastIndexOf? {c : Char} {t : Text} (h : c ∈ t) : ∃ i, lastIndexOf? c t = some i := by
  cases hi : lastIndexOf? c t with
  | none => exact absurd h (lastIndexOf?_eq_none_iff.1 hi)
  | some i => exact ⟨i, rfl⟩

theorem getElem?_ne_of_lastIndexOf?_lt {c : Char} {t : Text} {i j : Nat}
    (h : lastIndexOf? c t = some i) (hij : i < j) : t[j]? ≠ some c := by
  induction t generalizing i j with
  | nil => simp [lastIndexOf?] at h
  | cons d t ih =>
    obtain ⟨k, rfl⟩ := Nat.exists_eq_succ_of_ne_zero (by omega : j ≠ 0)
    rw [List.getElem?_cons_succ]
    simp only [lastIndexOf?] at h
    split at h
    case h_1 l hl =>
      cases h
      exact ih hl (by omega)
    case h_2 hnone =>
      intro hk
      exact lastIndexOf?_eq_none_iff.1 hnone (List.mem_of_getElem? hk)

end Text

namespace Grammar

/-- The last double quote of a text stands at an offset. -/
def LastQuoteAt (text : Text) (i : Nat) : Prop :=
  text[i]? = some '"' ∧ ∀ j, i < j → text[j]? ≠ some '"'

/-- An operator symbol stands at an offset outside phrases where a segment may begin, and no body
begins behind it. -/
def LooseAt (text : Text) (i : Nat) : Prop :=
  (text[i]? = some '+' ∨ text[i]? = some '-') ∧
  (text.take i).count '"' % 2 = 0 ∧
  (i = 0 ∨ ∃ c, text[i - 1]? = some c ∧ (Text.isBlank c = true ∨ c = '"')) ∧
  (i + 1 = text.length ∨
    ∃ c, text[i + 1]? = some c ∧ (Text.isBlank c = true ∨ c = '+' ∨ c = '-'))

def FirstLooseAt (text : Text) (i : Nat) : Prop := LooseAt text i ∧ ∀ j < i, ¬ LooseAt text j

/-- A segment may begin behind a text: outside phrases and not inside a term. -/
def Opens (before : Text) : Prop :=
  before.count '"' % 2 = 0 ∧
    ∀ c, before.getLast? = some c → Text.isBlank c = true ∨ c = '"'

/-- No body begins with the text: it is empty or starts with a blank or a sign. -/
def NoBody (rest : Text) : Prop :=
  ∀ c, rest.head? = some c → Text.isBlank c = true ∨ (Sign.ofChar? c).isSome = true

theorem isSome_ofChar? {c : Char} : (Sign.ofChar? c).isSome = true ↔ c = '+' ∨ c = '-' := by
  unfold Sign.ofChar?
  split
  case isTrue h => simp [h]
  case isFalse h => split <;> simp [*]

theorem exists_sign {c : Char} : c = '+' ∨ c = '-' ↔ ∃ s : Sign, c = s.char := by
  constructor
  · rintro (rfl | rfl)
    · exact ⟨.plus, rfl⟩
    · exact ⟨.minus, rfl⟩
  · rintro ⟨s, rfl⟩
    cases s
    · exact .inl rfl
    · exact .inr rfl

theorem eq_take_append_cons {t : Text} {i : Nat} {c : Char} (h : t[i]? = some c) :
    t = t.take i ++ c :: t.drop (i + 1) := by
  obtain ⟨hi, rfl⟩ := List.getElem?_eq_some_iff.1 h
  rw [← List.drop_eq_getElem_cons hi, List.take_append_drop]

theorem noBody_nil : NoBody [] := by simp [NoBody]

theorem looseAt_of_split {before rest : Text} {s : Sign} (hb : Opens before) (hr : NoBody rest) :
    LooseAt (before ++ s.char :: rest) before.length := by
  refine ⟨?_, ?_, ?_, ?_⟩
  · simpa using exists_sign.2 ⟨s, rfl⟩
  · simpa using hb.1
  · cases hl : before.getLast? with
    | none => exact .inl (by simpa using hl)
    | some c =>
      refine .inr ⟨c, ?_, hb.2 c hl⟩
      have hne : before ≠ [] := by
        rintro rfl
        cases hl
      have hlt : before.length - 1 < before.length := by
        have := List.length_pos_iff.2 hne
        omega
      rw [List.getElem?_append_left hlt, ← List.getLast?_eq_getElem?, hl]
  · cases rest with
    | nil => exact .inl (by simp)
    | cons c rest =>
      refine .inr ⟨c, by simp, ?_⟩
      rw [← isSome_ofChar?]
      exact hr c rfl

theorem split_of_looseAt {text : Text} {i : Nat} (h : LooseAt text i) :
    ∃ before s rest, text = before ++ Sign.char s :: rest ∧ before.length = i ∧ Opens before ∧
      NoBody rest := by
  obtain ⟨hc, heven, hprev, hnext⟩ := h
  obtain ⟨c, hc, hsign⟩ : ∃ c, text[i]? = some c ∧ (c = '+' ∨ c = '-') := by
    rcases hc with hc | hc
    · exact ⟨_, hc, .inl rfl⟩
    · exact ⟨_, hc, .inr rfl⟩
  obtain ⟨s, rfl⟩ := exists_sign.1 hsign
  have hi : i < text.length := (List.getElem?_eq_some_iff.1 hc).1
  refine ⟨text.take i, s, text.drop (i + 1), eq_take_append_cons hc, ?_, ⟨heven, ?_⟩, ?_⟩
  · rw [List.length_take]
    omega
  · intro d hd
    rcases hprev with rfl | ⟨e, he, hboundary⟩
    · simp at hd
    · have hpos : i ≠ 0 := by
        rintro rfl
        simp at hd
      rw [List.getLast?_take, if_neg hpos, he] at hd
      cases hd
      exact hboundary
  · intro d hd
    rw [List.head?_drop] at hd
    rcases hnext with hend | ⟨e, he, hbody⟩
    · rw [List.getElem?_eq_none (by omega)] at hd
      cases hd
    · rw [he] at hd
      cases hd
      rwa [isSome_ofChar?]

theorem LooseAt.exists_sign {text : Text} {i : Nat} {c : Char} (h : LooseAt text i)
    (hc : text[i]? = some c) : ∃ s : Sign, c = s.char := by
  obtain ⟨before, s, rest, rfl, rfl, -⟩ := split_of_looseAt h
  exact ⟨s, by simpa using hc.symm⟩

/-- What the characters read so far look like when something has been begun. -/
def Fits (before : Text) : Partial → Prop
  | .gap => Opens before
  | .signed s => ∃ a, before = a ++ [s.char] ∧ Opens a
  | .inTerm _ _ => before.count '"' % 2 = 0 ∧ ∃ c, before.getLast? = some c ∧ IsPlain c
  | .inPhrase _ _ _ => before.count '"' % 2 = 1

theorem count_append_plain {before : Text} {c : Char} (h : c ≠ '"') :
    (before ++ [c]).count '"' = before.count '"' := by
  simp [List.count_append, h]

theorem count_append_quote (before : Text) :
    (before ++ ['"']).count '"' = before.count '"' + 1 := by
  simp [List.count_append]

theorem opens_nil : Opens [] := ⟨rfl, by simp⟩

theorem opens_append_blank {before : Text} {c : Char} (h : before.count '"' % 2 = 0)
    (hc : Text.isBlank c = true) : Opens (before ++ [c]) := by
  refine ⟨by rwa [count_append_plain (ne_quote_of_isBlank hc)], ?_⟩
  intro d hd
  simp only [List.getLast?_concat, Option.some.injEq] at hd
  subst hd
  exact .inl hc

theorem opens_append_quote {before : Text} (h : before.count '"' % 2 = 1) :
    Opens (before ++ ['"']) := by
  refine ⟨by rw [count_append_quote]; omega, ?_⟩
  intro d hd
  simp only [List.getLast?_concat, Option.some.injEq] at hd
  exact .inr hd.symm

theorem fits_openWith {before : Text} {c : Char} (sign : Option Sign)
    (h : before.count '"' % 2 = 0) (hc : Text.isBlank c = false) :
    Fits (before ++ [c]) (Scan.openWith sign c) := by
  by_cases hq : c = '"'
  · subst hq
    rw [Scan.openWith, if_pos rfl, Fits, count_append_quote]
    omega
  · rw [Scan.openWith, if_neg hq]
    exact ⟨by rwa [count_append_plain hq], c, by simp, hc, hq⟩

theorem Fits.even_of_signed {before : Text} {s : Sign} (h : Fits before (.signed s)) :
    before.count '"' % 2 = 0 := by
  obtain ⟨a, rfl, ha⟩ := h
  rw [count_append_plain (isPlain_sign s).2]
  exact ha.1

theorem fits_step {before : Text} {s u : Scan} {c : Char} (h : Fits before s.begun)
    (hs : s.step c = .ok u) : Fits (before ++ [c]) u.begun := by
  obtain ⟨closed, hm, -⟩ := Scan.moves_of_step hs
  revert h hm
  generalize s.begun = b, u.begun = b'
  intro h hm
  cases hm with
  | blank hb => exact opens_append_blank h.1 hb
  | sign s => exact ⟨before, rfl, h⟩
  | body hb _ => exact fits_openWith none h.1 hb
  | signedBody hb _ => exact fits_openWith (some _) h.even_of_signed hb
  | termPlain hp => exact ⟨by rw [count_append_plain hp.2]; exact h.1, c, by simp, hp⟩
  | termBlank hb => exact opens_append_blank h.1 hb
  | termQuote =>
    rw [Fits, count_append_quote]
    have heven := h.1
    omega
  | phraseQuote => exact opens_append_quote h
  | phraseBlank hb =>
    rw [Fits, count_append_plain (ne_quote_of_isBlank hb)]
    exact h
  | phrasePlain hp =>
    rw [Fits, count_append_plain hp.2]
    exact h

theorem fits_run {before t : Text} {s u : Scan} (h : Fits before s.begun)
    (hr : s.run t = .ok u) : Fits (before ++ t) u.begun := by
  induction t generalizing before s with
  | nil =>
    cases hr
    rwa [List.append_nil]
  | cons c t ih =>
    obtain ⟨v, hs, hr⟩ := Scan.run_cons_eq_ok.1 hr
    rw [List.append_cons]
    exact ih (fits_step h hs) hr

theorem fits_of_run {t : Text} {u : Scan} (h : Scan.start.run t = .ok u) : Fits t u.begun :=
  @fits_run [] t Scan.start u opens_nil h

/-- Where a segment may begin, nothing has been begun. -/
theorem Fits.eq_gap {before : Text} {b : Partial} (h : Fits before b) (ho : Opens before) :
    b = .gap := by
  cases b with
  | gap => rfl
  | signed s =>
    obtain ⟨a, rfl, -⟩ := h
    exact absurd (ho.2 s.char (by simp)) (isPlain_sign s).not_ends
  | inTerm sign chars =>
    obtain ⟨-, c, hc, hp⟩ := h
    exact absurd (ho.2 c hc) hp.not_ends
  | inPhrase sign words chars =>
    have heven := ho.1
    rw [Fits] at h
    omega

/-- After an operator symbol where a segment may begin, a sign has been begun. -/
theorem begun_of_run_sign {before : Text} {s : Sign} {u : Scan} (ho : Opens before)
    (h : Scan.start.run (before ++ [s.char]) = .ok u) : u.begun = .signed s := by
  obtain ⟨⟨offset, finished, begun⟩, hv, hs⟩ := Scan.run_append_eq_ok.1 h
  obtain rfl := (fits_of_run hv).eq_gap ho
  rw [Scan.run_cons, Scan.step_gap_sign] at hs
  cases hs
  rfl

/-- The scan does not get past the character behind a loose operator symbol. -/
theorem length_le_of_looseAt {a b : Text} {u : Scan} {i : Nat}
    (h : Scan.start.run a = .ok u) (hl : LooseAt (a ++ b) i) : a.length ≤ i + 1 := by
  obtain ⟨before, s, rest, heq, rfl, ho, hn⟩ := split_of_looseAt hl
  rw [List.append_cons] at heq
  rcases List.append_eq_append_iff.1 heq with ⟨a', ha, -⟩ | ⟨a', rfl, rfl⟩
  · have hlen := congrArg List.length ha
    simp only [List.length_append, List.length_singleton] at hlen
    omega
  · cases a' with
    | nil => simp
    | cons d a' =>
      obtain ⟨⟨offset, finished, begun⟩, hv, hd⟩ := Scan.run_append_eq_ok.1 h
      obtain rfl : begun = .signed s := begun_of_run_sign ho hv
      rw [Scan.run_cons, Scan.step_signed_error (hn d rfl)] at hd
      cases hd

/-! ## Where the scan fails -/

theorem exists_of_run_error {s : Scan} {t : Text} {n : Nat} (h : s.run t = .error n) :
    ∃ a c rest u, t = a ++ c :: rest ∧ s.run a = .ok u ∧ u.step c = .error n := by
  induction t generalizing s with
  | nil => cases h
  | cons c t ih =>
    rw [Scan.run_cons] at h
    cases hs : s.step c with
    | error m =>
      rw [hs] at h
      cases h
      exact ⟨[], c, t, s, rfl, rfl, hs⟩
    | ok v =>
      rw [hs] at h
      obtain ⟨a, d, rest, u, rfl, ha, hd⟩ := ih h
      refine ⟨c :: a, d, rest, u, rfl, ?_, hd⟩
      rw [Scan.run_cons, hs]
      exact ha

/-- A sign that has been begun where no body follows is the first loose operator symbol. -/
theorem firstLooseAt_of_signed {a rest : Text} {u : Scan} {s : Sign}
    (h : Scan.start.run a = .ok u) (hb : u.begun = .signed s) (hn : NoBody rest) :
    ∃ before, a = before ++ [s.char] ∧ Opens before ∧ FirstLooseAt (a ++ rest) before.length := by
  have hfits := fits_of_run h
  rw [hb] at hfits
  obtain ⟨before, rfl, ho⟩ := hfits
  refine ⟨before, rfl, ho, ?_, ?_⟩
  · rw [← List.append_cons]
    exact looseAt_of_split ho hn
  · -- behind an earlier one the scan would not have come this far
    intro j hj hl
    have hle := length_le_of_looseAt h hl
    rw [List.length_append, List.length_singleton] at hle
    omega

/-- A run that fails stops at the character behind the first loose operator symbol. -/
theorem split_of_run_error {text : Text} {n : Nat} (h : Scan.start.run text = .error n) :
    ∃ before s rest, text = before ++ Sign.char s :: rest ∧ Opens before ∧
      FirstLooseAt text before.length ∧ n = before.length + 1 := by
  obtain ⟨a, c, rest, u, rfl, ha, hc⟩ := exists_of_run_error h
  obtain ⟨rfl, ⟨s, hs⟩, hbody⟩ := Scan.step_eq_error hc
  have hn : NoBody (c :: rest) := by
    intro d hd
    cases hd
    exact hbody
  obtain ⟨before, rfl, ho, hf⟩ := firstLooseAt_of_signed ha hs hn
  refine ⟨before, s, c :: rest, (List.append_cons ..).symm, ho, hf, ?_⟩
  rw [Scan.offset_run ha]
  simp [Scan.start]

/-- A text with paired quotes that ends too early ends with its first loose operator symbol. -/
theorem split_of_finish_error {text : Text} {u : Scan} {n : Nat}
    (hr : Scan.start.run text = .ok u) (hf : u.finish = .error n)
    (heven : text.count '"' % 2 = 0) :
    ∃ before s, text = before ++ [Sign.char s] ∧ Opens before ∧
      FirstLooseAt text before.length ∧ n = before.length := by
  have hoffset := Scan.offset_run hr
  obtain ⟨offset, finished, begun⟩ := u
  cases begun with
  | gap | inTerm => cases hf
  | signed s =>
    cases hf
    obtain ⟨before, rfl, ho, hfirst⟩ := firstLooseAt_of_signed hr rfl noBody_nil
    rw [List.append_nil] at hfirst
    refine ⟨before, s, rfl, ho, hfirst, ?_⟩
    change offset = 0 + (before ++ [s.char]).length at hoffset
    change offset - 1 = before.length
    rw [hoffset, List.length_append, List.length_singleton]
    omega
  | inPhrase sign words chars =>
    have hodd : text.count '"' % 2 = 1 := fits_of_run hr
    omega

/-- A text with paired quotes that is refused has a first loose operator symbol, and the scan stops
there or at the next character. -/
theorem segments_error {text : Text} {n : Nat} (h : segments text = .error n)
    (heven : text.count '"' % 2 = 0) :
    ∃ before s rest, text = before ++ Sign.char s :: rest ∧ Opens before ∧
      FirstLooseAt text before.length ∧ (n = before.length ∨ n = before.length + 1) := by
  rw [segments] at h
  cases hr : Scan.start.run text with
  | error m =>
    rw [hr] at h
    cases h
    obtain ⟨before, s, rest, htext, ho, hf, hn⟩ := split_of_run_error hr
    exact ⟨before, s, rest, htext, ho, hf, .inr hn⟩
  | ok u =>
    rw [hr] at h
    obtain ⟨before, s, htext, ho, hf, hn⟩ := split_of_finish_error hr h heven
    exact ⟨before, s, [], htext, ho, hf, .inl hn⟩

/-- An accepted text ends between two segments or in a term. -/
theorem run_of_segments {text : Text} {ss : List Segment} (h : segments text = .ok ss) :
    ∃ u, Scan.start.run text = .ok u ∧ u.finish = .ok ss := by
  rw [segments] at h
  cases hr : Scan.start.run text with
  | error n =>
    rw [hr] at h
    cases h
  | ok u =>
    rw [hr] at h
    exact ⟨u, rfl, h⟩

theorem even_of_segments {text : Text} {ss : List Segment} (h : segments text = .ok ss) :
    text.count '"' % 2 = 0 := by
  obtain ⟨⟨offset, finished, begun⟩, hr, hf⟩ := run_of_segments h
  have hfits := fits_of_run hr
  cases begun with
  | gap | inTerm => exact hfits.1
  | signed | inPhrase => cases hf

theorem not_looseAt_of_segments {text : Text} {ss : List Segment} (h : segments text = .ok ss)
    (i : Nat) : ¬ LooseAt text i := by
  intro hl
  obtain ⟨⟨offset, finished, begun⟩, hr, hf⟩ := run_of_segments h
  obtain ⟨before, s, rest, rfl, rfl, ho, hn⟩ := split_of_looseAt hl
  cases rest with
  | nil =>
    obtain rfl : begun = .signed s := begun_of_run_sign ho hr
    cases hf
  | cons d rest =>
    have hle := @length_le_of_looseAt _ [] _ _ hr (by rwa [List.append_nil])
    simp only [List.length_append, List.length_cons] at hle
    omega

/-! ## The rejection -/

theorem explain_odd {text : Text} (stop : Option Int) (h : text.count '"' % 2 = 1) :
    ∃ i, LastQuoteAt text i ∧
      Rejection.explain text stop = ⟨text, .unterminatedQuote, some i⟩ := by
  have hmem : '"' ∈ text := by
    apply List.count_pos_iff.1
    omega
  obtain ⟨i, hi⟩ := Text.exists_lastIndexOf? hmem
  refine ⟨i, ⟨Text.getElem?_of_lastIndexOf? hi, fun j hj =>
    Text.getElem?_ne_of_lastIndexOf?_lt hi hj⟩, ?_⟩
  unfold Rejection.explain
  rw [if_pos h, hi]
  rfl

theorem operatorAt?_sign {before rest : Text} (s : Sign) :
    Rejection.operatorAt? (before ++ s.char :: rest) before.length = some s.char := by
  have hs := exists_sign.2 ⟨s, rfl⟩
  simp [Rejection.operatorAt?, hs]

/-- The character before a place where a segment may begin is no operator symbol. -/
theorem operatorAt?_before {before : Text} (rest : Text) (h : Opens before) :
    Rejection.operatorAt? (before ++ rest) (before.length - 1) = none := by
  unfold Rejection.operatorAt?
  rcases List.eq_nil_or_concat before with rfl | ⟨a, c, rfl⟩
  · rfl
  · rw [List.concat_eq_append] at h ⊢
    have hsign : ¬ (c = '+' ∨ c = '-') := by
      intro hc
      obtain ⟨s, rfl⟩ := exists_sign.1 hc
      exact (isPlain_sign s).not_ends (h.2 s.char (by simp))
    have hoffset : (((a ++ [c]).length : Int) - 1) = a.length := by simp
    rw [hoffset, if_neg (by omega)]
    simpa using hsign

/-- Whether reading stopped at the loose operator symbol or behind it, the symbol is blamed. -/
theorem explain_loose {before rest : Text} {s : Sign} {n : Nat}
    (heven : (before ++ s.char :: rest).count '"' % 2 = 0) (ho : Opens before)
    (hn : n = before.length ∨ n = before.length + 1) :
    Rejection.explain (before ++ s.char :: rest) (some n) =
      ⟨before ++ s.char :: rest, .looseOperator s.char, some before.length⟩ := by
  unfold Rejection.explain
  rw [if_neg (by omega)]
  dsimp only
  rw [if_neg (by omega)]
  rcases hn with rfl | rfl
  · rw [operatorAt?_before _ ho, operatorAt?_sign]
  · rw [Int.natCast_add_one, Int.add_sub_cancel, operatorAt?_sign]

theorem parse_error_odd {text : Text} (h : text.count '"' % 2 = 1) :
    ∃ i, LastQuoteAt text i ∧ parse text = .error ⟨text, .unterminatedQuote, some i⟩ := by
  cases hs : segments text with
  | error n =>
    obtain ⟨i, hi, he⟩ := explain_odd (some n) h
    exact ⟨i, hi, by rw [parse_of_error hs, he]⟩
  | ok ss =>
    have heven := even_of_segments hs
    omega

theorem parse_error_even {text : Text} {r : Rejection} (heven : text.count '"' % 2 = 0)
    (h : parse text = .error r) :
    ∃ i s, FirstLooseAt text i ∧ text[i]? = some (Sign.char s) ∧
      r = ⟨text, .looseOperator s.char, some i⟩ := by
  cases hs : segments text with
  | error n =>
    obtain ⟨before, s, rest, rfl, ho, hf, hn⟩ := segments_error hs heven
    rw [parse_of_error hs, explain_loose heven ho hn] at h
    cases h
    exact ⟨before.length, s, hf, by simp, rfl⟩
  | ok ss =>
    rw [parse_of_segments hs] at h
    cases h

theorem exists_parse_error {text : Text} {i : Nat} (h : LooseAt text i) :
    ∃ r, parse text = .error r := by
  cases hs : segments text with
  | error n => exact ⟨_, parse_of_error hs⟩
  | ok ss => exact absurd h (not_looseAt_of_segments hs i)

theorem LastQuoteAt.unique {text : Text} {i j : Nat} (hi : LastQuoteAt text i)
    (hj : LastQuoteAt text j) : i = j := by
  rcases Nat.lt_trichotomy i j with h | h | h
  · exact absurd hj.1 (hi.2 j h)
  · exact h
  · exact absurd hi.1 (hj.2 i h)

theorem FirstLooseAt.unique {text : Text} {i j : Nat} (hi : FirstLooseAt text i)
    (hj : FirstLooseAt text j) : i = j := by
  rcases Nat.lt_trichotomy i j with h | h | h
  · exact absurd hi.1 (hj.2 i h)
  · exact h
  · exact absurd hj.1 (hi.2 j h)

theorem parse_eq_error_iff {text : Text} {r : Rejection} :
    parse text = .error r ↔
      (text.count '"' % 2 = 1 ∧ ∃ i, LastQuoteAt text i ∧
        r = ⟨text, .unterminatedQuote, some ↑i⟩) ∨
      (text.count '"' % 2 = 0 ∧ ∃ i s, FirstLooseAt text i ∧ text[i]? = some (Sign.char s) ∧
        r = ⟨text, .looseOperator s.char, some ↑i⟩) := by
  constructor
  · intro h
    rcases Nat.mod_two_eq_zero_or_one (text.count '"') with heven | hodd
    · exact .inr ⟨heven, parse_error_even heven h⟩
    · obtain ⟨i, hi, he⟩ := parse_error_odd hodd
      rw [he] at h
      cases h
      exact .inl ⟨hodd, i, hi, rfl⟩
  · rintro (⟨hodd, i, hi, rfl⟩ | ⟨heven, i, s, hi, hs, rfl⟩)
    · obtain ⟨j, hj, he⟩ := parse_error_odd hodd
      rwa [hi.unique hj]
    · obtain ⟨r, hr⟩ := exists_parse_error hi.1
      obtain ⟨j, s', hj, hs', rfl⟩ := parse_error_even heven hr
      obtain rfl := hi.unique hj
      rw [hs] at hs'
      rw [hr, Option.some.inj hs']

theorem exists_parse_error_iff {text : Text} :
    (∃ r, parse text = .error r) ↔ text.count '"' % 2 = 1 ∨ ∃ i, LooseAt text i := by
  constructor
  · rintro ⟨r, hr⟩
    rcases parse_eq_error_iff.1 hr with ⟨hodd, -⟩ | ⟨-, i, s, hi, -⟩
    · exact .inl hodd
    · exact .inr ⟨i, hi.1⟩
  · rintro (hodd | ⟨i, hi⟩)
    · obtain ⟨i, -, he⟩ := parse_error_odd hodd
      exact ⟨_, he⟩
    · exact exists_parse_error hi

/-- A text is accepted if its quotes are paired and no operator symbol is loose. -/
theorem accepted_iff {text : Text} :
    Accepted text ↔ text.count '"' % 2 = 0 ∧ ∀ i, ¬ LooseAt text i := by
  constructor
  · intro h
    obtain ⟨ss, hss⟩ := accepted_iff_spells.1 h
    have hsegments := segments_of_spells hss
    exact ⟨even_of_segments hsegments, not_looseAt_of_segments hsegments⟩
  · rintro ⟨heven, hno⟩
    cases hp : parse text with
    | ok tree => exact ⟨tree, hp⟩
    | error r =>
      rcases exists_parse_error_iff.1 ⟨r, hp⟩ with hodd | ⟨i, hi⟩
      · omega
      · exact absurd hi (hno i)

theorem quoted_sign (s : Sign) : Text.quoted [s.char] = ['\x27', s.char, '\x27'] := by
  cases s <;> decide

theorem description_looseOperator (s : Sign) :
    (Reason.looseOperator s.char).description =
      "operator '" ++ [s.char] ++ "' must be directly followed by a term or phrase" := by
  unfold Reason.description
  dsimp only
  rw [quoted_sign]
  simp

/-- When and why a text is rejected: an unpaired quote is always to blame, else the first loose
operator symbol. The position is that of the character to blame. -/
theorem parse_rejection_exact (text : Text) :
    ((∃ r, parse text = .error r) ↔ text.count '"' % 2 = 1 ∨ ∃ i, LooseAt text i) ∧
    (∀ r, parse text = .error r ↔
      ∃ (i : Nat) (c : Char), text[i]? = some c ∧ r.text = text ∧ r.position = some ↑i ∧
        ((text.count '"' % 2 = 1 ∧ LastQuoteAt text i ∧ r.reason = .unterminatedQuote ∧
            r.reason.description = "unterminated quote") ∨
          (text.count '"' % 2 = 0 ∧ FirstLooseAt text i ∧ r.reason = .looseOperator c ∧
            r.reason.description =
              "operator '" ++ [c] ++ "' must be directly followed by a term or phrase"))) ∧
    ∀ position, parse text ≠ .error ⟨text, .unexpectedInput, position⟩ := by
  refine ⟨exists_parse_error_iff, ?_, ?_⟩
  · intro r
    rw [parse_eq_error_iff]
    constructor
    · rintro (⟨hodd, i, hi, rfl⟩ | ⟨heven, i, s, hi, hs, rfl⟩)
      · exact ⟨i, '"', hi.1, rfl, rfl, .inl ⟨hodd, hi, rfl, rfl⟩⟩
      · exact ⟨i, s.char, hs, rfl, rfl, .inr ⟨heven, hi, rfl, description_looseOperator s⟩⟩
    · rintro ⟨i, c, hc, rfl, hp, ⟨hodd, hi, hr, -⟩ | ⟨heven, hi, hr, -⟩⟩
      · refine .inl ⟨hodd, i, hi, ?_⟩
        rw [← hr, ← hp]
      · obtain ⟨s, rfl⟩ := hi.1.exists_sign hc
        refine .inr ⟨heven, i, s, hi, hc, ?_⟩
        rw [← hr, ← hp]
  · intro position h
    rcases parse_eq_error_iff.1 h with ⟨-, i, -, he⟩ | ⟨-, i, s, -, -, he⟩ <;> cases he

end Grammar
end SearchQuery
