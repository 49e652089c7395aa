import SearchQuery.Proofs.Spelling

/-!
# The scan reads what is spelled

What the scan makes of the rest of a text depends only on what has been begun. A gap, a sign and a
body are read as a whole, and after them the scan stands where it stood before, with one more
finished segment. A text that spells no segments is refused, so a text that is accepted spells the
segments that are returned.
-/

namespace SearchQuery
namespace Grammar
namespace Scan

/-- The outcome of reading the rest of a text. -/
def conclude (s : Scan) (rest : Text) : Except Nat (List Segment) := (s.run rest).bind finish

theorem segments_eq_conclude (text : Text) : segments text = start.conclude text := rfl

theorem run_cons (s : Scan) (c : Char) (t : Text) :
    s.run (c :: t) = (s.step c).bind fun u => u.run t := rfl

theorem run_cons_eq_ok {s u : Scan} {c : Char} {t : Text} :
    s.run (c :: t) = .ok u ↔ ∃ v, s.step c = .ok v ∧ v.run t = .ok u := by
  rw [run_cons]
  cases s.step c <;> simp [Except.bind]

theorem run_append_eq_ok {s u : Scan} {a b : Text} :
    s.run (a ++ b) = .ok u ↔ ∃ v, s.run a = .ok v ∧ v.run b = .ok u := by
  rw [run_append]
  cases s.run a <;> simp [Except.bind]

theorem conclude_nil (s : Scan) : s.conclude [] = s.finish := rfl

theorem conclude_cons (s : Scan) (c : Char) (t : Text) :
    s.conclude (c :: t) = (s.step c).bind fun u => u.conclude t := by
  rw [conclude, run_cons]
  cases s.step c <;> rfl

theorem conclude_append {s u : Scan} {a : Text} (h : s.run a = .ok u) (b : Text) :
    s.conclude (a ++ b) = u.conclude b := by
  rw [conclude, run_append, h]
  rfl

variable {offset : Nat} {finished : List Segment} {sign : Option Sign}

theorem step_gap_blank {c : Char} (h : Text.isBlank c = true) :
    step ⟨offset, finished, .gap⟩ c = .ok ⟨offset + 1, finished, .gap⟩ := by
  simp [step, h]

theorem step_gap_sign (s : Sign) :
    step ⟨offset, finished, .gap⟩ s.char = .ok ⟨offset + 1, finished, .signed s⟩ := by
  simp [step, (isPlain_sign s).1, Sign.ofChar?_eq_some_iff.2 rfl]

theorem step_signed_error {s : Sign} {c : Char}
    (h : Text.isBlank c = true ∨ (Sign.ofChar? c).isSome = true) :
    step ⟨offset, finished, .signed s⟩ c = .error offset := by
  simp [step, h]

theorem step_inTerm_plain {c : Char} {chars : Text} (h : IsPlain c) :
    step ⟨offset, finished, .inTerm sign chars⟩ c =
      .ok ⟨offset + 1, finished, .inTerm sign (c :: chars)⟩ := by
  simp [step, h.1, h.2]

theorem step_inTerm_blank {c : Char} {chars : Text} (h : Text.isBlank c = true) :
    step ⟨offset, finished, .inTerm sign chars⟩ c =
      .ok ⟨offset + 1, closeTerm sign chars :: finished, .gap⟩ := by
  simp [step, h]

theorem step_inTerm_quote {chars : Text} :
    step ⟨offset, finished, .inTerm sign chars⟩ '"' =
      .ok ⟨offset + 1, closeTerm sign chars :: finished, .inPhrase none [] []⟩ := by
  simp [step, isBlank_quote]

theorem step_inPhrase_quote {words : List Text} {chars : Text} :
    step ⟨offset, finished, .inPhrase sign words chars⟩ '"' =
      .ok ⟨offset + 1, ⟨sign, .phrase (closeWord words chars).reverse⟩ :: finished, .gap⟩ := by
  simp [step]

theorem step_inPhrase_blank {c : Char} {words : List Text} {chars : Text}
    (h : Text.isBlank c = true) :
    step ⟨offset, finished, .inPhrase sign words chars⟩ c =
      .ok ⟨offset + 1, finished, .inPhrase sign (closeWord words chars) []⟩ := by
  simp [step, h, ne_quote_of_isBlank h]

theorem step_inPhrase_plain {c : Char} {words : List Text} {chars : Text} (h : IsPlain c) :
    step ⟨offset, finished, .inPhrase sign words chars⟩ c =
      .ok ⟨offset + 1, finished, .inPhrase sign words (c :: chars)⟩ := by
  simp [step, h.1, h.2]

/-- What has been begun where a body comes next. -/
def after : Option Sign → Partial
  | none => .gap
  | some s => .signed s

/-- A character that is neither a blank nor a sign begins a body. -/
theorem step_after {c : Char} (hb : Text.isBlank c = false) (hs : Sign.ofChar? c = none) :
    step ⟨offset, finished, after sign⟩ c = .ok ⟨offset + 1, finished, openWith sign c⟩ := by
  cases sign <;> simp [after, step, hb, hs]

/-- What one character does: what has been begun before and after it, and what it finishes. -/
inductive Moves : Partial → Char → Partial → List Segment → Prop
  | blank {c} : Text.isBlank c = true → Moves .gap c .gap []
  | sign (s : Sign) : Moves .gap s.char (.signed s) []
  | body {c} : Text.isBlank c = false → Sign.ofChar? c = none → Moves .gap c (openWith none c) []
  | signedBody {s c} : Text.isBlank c = false → Sign.ofChar? c = none →
      Moves (.signed s) c (openWith (some s) c) []
  | termPlain {sign chars c} : IsPlain c →
      Moves (.inTerm sign chars) c (.inTerm sign (c :: chars)) []
  | termBlank {sign chars c} : Text.isBlank c = true →
      Moves (.inTerm sign chars) c .gap [closeTerm sign chars]
  | termQuote {sign chars} :
      Moves (.inTerm sign chars) '"' (.inPhrase none [] []) [closeTerm sign chars]
  | phraseQuote {sign words chars} :
      Moves (.inPhrase sign words chars) '"' .gap
        [⟨sign, .phrase (closeWord words chars).reverse⟩]
  | phraseBlank {sign words chars c} : Text.isBlank c = true →
      Moves (.inPhrase sign words chars) c (.inPhrase sign (closeWord words chars) []) []
  | phrasePlain {sign words chars c} : IsPlain c →
      Moves (.inPhrase sign words chars) c (.inPhrase sign words (c :: chars)) []

theorem moves_of_step {s u : Scan} {c : Char} (h : s.step c = .ok u) :
    ∃ closed, Moves s.begun c u.begun closed ∧ u.finished = closed ++ s.finished := by
  obtain ⟨offset, finished, begun⟩ := s
  cases begun with
  | gap =>
    cases hb : Text.isBlank c with
    | true =>
      rw [step_gap_blank hb] at h
      cases h
      exact ⟨[], .blank hb, rfl⟩
    | false =>
      cases hc : Sign.ofChar? c with
      | none =>
        rw [← after, step_after hb hc] at h
        cases h
        exact ⟨[], .body hb hc, rfl⟩
      | some sign =>
        rw [Sign.ofChar?_eq_some_iff] at hc
        subst hc
        rw [step_gap_sign] at h
        cases h
        exact ⟨[], .sign sign, rfl⟩
  | signed sign =>
    by_cases hd : Text.isBlank c = true ∨ (Sign.ofChar? c).isSome = true
    · rw [step_signed_error hd] at h
      cases h
    · simp only [not_or, Bool.not_eq_true, Option.isSome_eq_false_iff, Option.isNone_iff_eq_none]
        at hd
      rw [← after, step_after hd.1 hd.2] at h
      cases h
      exact ⟨[], .signedBody hd.1 hd.2, rfl⟩
  | inTerm sign chars =>
    rcases isPlain_or_endsTerm c [] with hp | he
    · rw [step_inTerm_plain hp] at h
      cases h
      exact ⟨[], .termPlain hp, rfl⟩
    · rcases endsTerm_cons.1 he with hb | rfl
      · rw [step_inTerm_blank hb] at h
        cases h
        exact ⟨_, .termBlank hb, rfl⟩
      · rw [step_inTerm_quote] at h
        cases h
        exact ⟨_, .termQuote, rfl⟩
  | inPhrase sign words chars =>
    rcases isPlain_or_endsTerm c [] with hp | he
    · rw [step_inPhrase_plain hp] at h
      cases h
      exact ⟨[], .phrasePlain hp, rfl⟩
    · rcases endsTerm_cons.1 he with hb | rfl
      · rw [step_inPhrase_blank hb] at h
        cases h
        exact ⟨_, .phraseBlank hb, rfl⟩
      · rw [step_inPhrase_quote] at h
        cases h
        exact ⟨_, .phraseQuote, rfl⟩

/-- The only failure: a sign that is followed by a blank or by another sign. -/
theorem step_eq_error {s : Scan} {c : Char} {n : Nat} (h : s.step c = .error n) :
    n = s.offset ∧ (∃ sign, s.begun = .signed sign) ∧
      (Text.isBlank c = true ∨ (Sign.ofChar? c).isSome = true) := by
  obtain ⟨offset, finished, begun⟩ := s
  cases begun with
  | signed sign =>
    by_cases hd : Text.isBlank c = true ∨ (Sign.ofChar? c).isSome = true
    · rw [step_signed_error hd] at h
      cases h
      exact ⟨rfl, ⟨sign, rfl⟩, hd⟩
    · simp [step, hd] at h
  | gap | inTerm | inPhrase =>
    simp only [step] at h
    repeat' split at h
    all_goals cases h

theorem run_gap {g : Text} (h : IsGap g) :
    run ⟨offset, finished, .gap⟩ g = .ok ⟨offset + g.length, finished, .gap⟩ := by
  induction g generalizing offset with
  | nil => rfl
  | cons c g ih =>
    obtain ⟨hc, hg⟩ := isGap_cons.1 h
    rw [run_cons, step_gap_blank hc, List.length_cons, Nat.add_comm g.length, ← Nat.add_assoc]
    exact ih hg

theorem run_signText :
    run ⟨offset, finished, .gap⟩ (signText sign) =
      .ok ⟨offset + (signText sign).length, finished, after sign⟩ := by
  cases sign with
  | none => rfl
  | some s =>
    rw [signText_some, run_cons, step_gap_sign]
    rfl

theorem run_inTerm {w chars : Text} (h : ∀ c ∈ w, IsPlain c) :
    run ⟨offset, finished, .inTerm sign chars⟩ w =
      .ok ⟨offset + w.length, finished, .inTerm sign (w.reverse ++ chars)⟩ := by
  induction w generalizing offset chars with
  | nil => rfl
  | cons c w ih =>
    rw [run_cons, step_inTerm_plain (h c (by simp)), List.length_cons, Nat.add_comm w.length,
      ← Nat.add_assoc, List.reverse_cons, List.append_assoc]
    exact ih fun d hd => h d (by simp [hd])

theorem reverse_closeWord (words : List Text) (chars : Text) :
    (closeWord words chars).reverse = words.reverse ++ Text.wordsFrom chars [] := by
  cases chars <;> simp [closeWord, Text.wordsFrom]

theorem reverse_closeWord_append (words : List Text) (chars rest : Text) {c : Char}
    (h : Text.isBlank c = true) :
    (closeWord words chars).reverse ++ Text.wordsFrom [] rest =
      words.reverse ++ Text.wordsFrom chars (c :: rest) := by
  cases chars <;> simp [closeWord, Text.wordsFrom, h]

/-- A phrase is read up to its closing quote; blanks only separate its words. -/
theorem run_inPhrase {t chars : Text} {words : List Text} (h : '"' ∉ t) :
    run ⟨offset, finished, .inPhrase sign words chars⟩ (t ++ ['"']) =
      .ok ⟨offset + t.length + 1,
        ⟨sign, .phrase (words.reverse ++ Text.wordsFrom chars t)⟩ :: finished, .gap⟩ := by
  induction t generalizing offset words chars with
  | nil =>
    rw [List.nil_append, run_cons, step_inPhrase_quote, reverse_closeWord]
    rfl
  | cons c t ih =>
    simp only [List.mem_cons, not_or] at h
    rw [List.cons_append, run_cons, List.length_cons, Nat.add_comm t.length, ← Nat.add_assoc]
    cases hb : Text.isBlank c with
    | true =>
      rw [step_inPhrase_blank hb, ← reverse_closeWord_append words chars t hb]
      exact ih h.2
    | false =>
      rw [step_inPhrase_plain ⟨hb, Ne.symm h.1⟩, Text.wordsFrom, hb, if_neg Bool.false_ne_true]
      exact ih h.2

/-- Without a closing quote the text ends inside the phrase. -/
theorem conclude_inPhrase {t chars : Text} {words : List Text} (h : '"' ∉ t) :
    conclude ⟨offset, finished, .inPhrase sign words chars⟩ t = .error (offset + t.length) := by
  induction t generalizing offset words chars with
  | nil => rfl
  | cons c t ih =>
    simp only [List.mem_cons, not_or] at h
    rw [conclude_cons, List.length_cons, Nat.add_comm t.length, ← Nat.add_assoc]
    cases hb : Text.isBlank c with
    | true =>
      rw [step_inPhrase_blank hb]
      exact ih h.2
    | false =>
      rw [step_inPhrase_plain ⟨hb, Ne.symm h.1⟩]
      exact ih h.2

/-- A term is finished by whatever ends it. -/
theorem conclude_inTerm {rest chars : Text} (h : EndsTerm rest) :
    conclude ⟨offset, finished, .inTerm sign chars⟩ rest =
      conclude ⟨offset, closeTerm sign chars :: finished, .gap⟩ rest := by
  cases rest with
  | nil => rfl
  | cons c rest =>
    rw [conclude_cons, conclude_cons]
    rcases endsTerm_cons.1 h with hb | rfl
    · rw [step_gap_blank hb, step_inTerm_blank hb]
    · rw [step_inTerm_quote]
      rfl

theorem openWith_term {c : Char} (h : c ≠ '"') : openWith sign c = .inTerm sign [c] := by
  simp [openWith, h]

theorem conclude_body {t rest : Text} {w : Written} (ht : SpellsBody t w)
    (he : ∀ u, w = .term u → EndsTerm rest) :
    conclude ⟨offset, finished, after sign⟩ (t ++ rest) =
      conclude ⟨offset + t.length, ⟨sign, w⟩ :: finished, .gap⟩ rest := by
  cases ht with
  | term ht =>
    obtain ⟨c, t, rfl⟩ := List.exists_cons_of_ne_nil ht.1.1
    have hc : IsPlain c := ht.1.2 c (by simp)
    have hrun : run ⟨offset, finished, after sign⟩ (c :: t) =
        .ok ⟨offset + 1 + t.length, finished, .inTerm sign (t.reverse ++ [c])⟩ := by
      rw [run_cons, step_after hc.1 ht.ofChar?_eq_none, openWith_term hc.2]
      exact run_inTerm fun d hd => ht.1.2 d (by simp [hd])
    rw [conclude_append hrun, conclude_inTerm (he _ rfl)]
    simp [closeTerm, Nat.add_assoc, Nat.add_comm 1]
  | @phrase t ws ht =>
    have hrun : run ⟨offset, finished, after sign⟩ ('"' :: t ++ ['"']) =
        .ok ⟨offset + 1 + t.length + 1, ⟨sign, .phrase ws⟩ :: finished, .gap⟩ := by
      rw [List.cons_append, run_cons, step_after isBlank_quote (by decide), ← ht.words_eq]
      exact run_inPhrase ht.quote_notMem
    rw [conclude_append hrun]
    simp [Nat.add_assoc, Nat.add_comm 1]

theorem conclude_segment {g t rest : Text} {w : Written} (hg : IsGap g) (ht : SpellsBody t w)
    (he : ∀ u, w = .term u → EndsTerm rest) :
    conclude ⟨offset, finished, .gap⟩ (g ++ (signText sign ++ t) ++ rest) =
      conclude ⟨offset + (g ++ (signText sign ++ t)).length, ⟨sign, w⟩ :: finished, .gap⟩ rest := by
  rw [List.append_assoc, conclude_append (run_gap hg), List.append_assoc,
    conclude_append run_signText, conclude_body ht he]
  simp [Nat.add_assoc]

/-- A character that is neither a blank nor a sign begins a body, unless it is a quote without a
partner. -/
theorem exists_body {c : Char} (t : Text) (hb : Text.isBlank c = false)
    (hs : Sign.ofChar? c = none) :
    (∃ body w rest, c :: t = body ++ rest ∧ body ≠ [] ∧ SpellsBody body w ∧
      ∀ u, w = .term u → EndsTerm rest) ∨ c = '"' ∧ '"' ∉ t := by
  by_cases hc : c = '"'
  · subst hc
    by_cases ht : '"' ∈ t
    · obtain ⟨inner, rest, rfl, hinner⟩ := List.eq_append_cons_of_mem ht
      refine .inl ⟨'"' :: inner ++ ['"'], _, rest, by simp, by simp,
        .phrase (spellsWords_words hinner), ?_⟩
      intro u hu
      cases hu
    · exact .inr ⟨rfl, ht⟩
  · obtain ⟨w, rest, rfl, hw, hrest⟩ := exists_plain_append t
    have hterm : IsTerm (c :: w) := isTerm_cons hs (by simpa using ⟨⟨hb, hc⟩, hw⟩)
    exact .inl ⟨c :: w, _, rest, rfl, by simp, .term hterm, fun _ _ => hrest⟩

theorem conclude_unpaired {t : Text} (h : '"' ∉ t) :
    conclude ⟨offset, finished, after sign⟩ ('"' :: t) = .error (offset + 1 + t.length) := by
  rw [conclude_cons, step_after isBlank_quote (by decide)]
  exact conclude_inPhrase h

/-! ## Whole texts -/

theorem conclude_of_spells {text : Text} {ss : List Segment} (h : Spells text ss) :
    conclude ⟨offset, finished, .gap⟩ text = .ok (finished.reverse ++ ss) := by
  induction h generalizing offset finished with
  | @gap g hg =>
    rw [← List.append_nil g, conclude_append (run_gap hg), conclude_nil]
    simp [finish]
  | segment hg ht he _ ih =>
    rw [conclude_segment hg ht he, ih]
    simp

/-- The text spells segments, or the scan refuses it wherever it stands between two segments. -/
def Settled (text : Text) : Prop :=
  (∃ ss, Spells text ss) ∨
    ∀ offset finished, ∃ n, conclude ⟨offset, finished, .gap⟩ text = .error n

/-- Where a body comes next, the text goes on with one or is refused. -/
theorem settled_after {c : Char} {t : Text}
    (ih : ∀ u : Text, u.length < (c :: t).length → Settled u)
    (hb : Text.isBlank c = false) (hs : Sign.ofChar? c = none) (sign : Option Sign) :
    (∃ ss, Spells (signText sign ++ c :: t) ss) ∨
      ∀ offset finished, ∃ n, conclude ⟨offset, finished, after sign⟩ (c :: t) = .error n := by
  rcases exists_body t hb hs with ⟨body, w, rest, heq, hne, hbody, he⟩ | ⟨rfl, ht⟩
  · rw [heq] at ih ⊢
    have hlt : rest.length < (body ++ rest).length := by
      have := List.length_pos_iff.2 hne
      rw [List.length_append]
      omega
    rcases ih rest hlt with ⟨ss, hss⟩ | hrest
    · refine .inl ⟨⟨sign, w⟩ :: ss, ?_⟩
      rw [← List.append_assoc]
      exact .segment isGap_nil hbody he hss
    · refine .inr fun offset finished => ?_
      rw [conclude_body hbody he]
      exact hrest _ _
  · exact .inr fun offset finished => ⟨_, conclude_unpaired ht⟩

/-- Behind a sign neither a blank nor a further sign nor the end is allowed. -/
theorem settled_signed (s : Sign) (t : Text)
    (ih : ∀ u : Text, u.length < t.length → Settled u) : Settled (s.char :: t) := by
  unfold Settled
  simp only [conclude_cons, step_gap_sign]
  cases t with
  | nil => exact .inr fun offset finished => ⟨_, rfl⟩
  | cons d t =>
    by_cases hd : Text.isBlank d = true ∨ (Sign.ofChar? d).isSome = true
    · refine .inr fun offset finished => ?_
      simp only [Except.bind, conclude_cons, step_signed_error hd]
      exact ⟨_, rfl⟩
    · simp only [not_or, Bool.not_eq_true, Option.isSome_eq_false_iff, Option.isNone_iff_eq_none]
        at hd
      rcases settled_after ih hd.1 hd.2 (some s) with hss | ht
      · exact .inl hss
      · exact .inr fun offset finished => ht (offset + 1) finished

theorem settled (text : Text) : Settled text := by
  -- a body is read as a whole, so the rest is shorter by more than one character
  induction hn : text.length using Nat.strongRecOn generalizing text with
  | ind n ih =>
    subst hn
    have ih (u : Text) (hu : u.length < text.length) := ih u.length hu u rfl
    cases text with
    | nil => exact .inl ⟨[], .gap isGap_nil⟩
    | cons c t =>
      cases hb : Text.isBlank c with
      | true =>
        rcases ih t (by simp) with ⟨ss, hss⟩ | ht
        · exact .inl ⟨ss, hss.blank_cons hb⟩
        · refine .inr fun offset finished => ?_
          rw [conclude_cons, step_gap_blank hb]
          exact ht _ _
      | false =>
        cases hs : Sign.ofChar? c with
        | none => exact settled_after ih hb hs none
        | some s =>
          rw [Sign.ofChar?_eq_some_iff] at hs
          subst hs
          exact settled_signed s t fun u hu => ih u (by simp; omega)

end Scan

theorem segments_of_spells {text : Text} {ss : List Segment} (h : Spells text ss) :
    segments text = .ok ss :=
  Scan.conclude_of_spells h

theorem segments_eq_ok_iff {text : Text} {ss : List Segment} :
    segments text = .ok ss ↔ Spells text ss := by
  constructor
  · intro h
    rcases Scan.settled text with ⟨ss', hss⟩ | hno
    · rw [segments_of_spells hss] at h
      cases h
      exact hss
    · obtain ⟨n, hn⟩ := hno 0 []
      rw [Scan.segments_eq_conclude, Scan.start, hn] at h
      cases h
  · exact segments_of_spells

end Grammar
end SearchQuery
