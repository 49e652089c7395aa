import SearchQuery.Proofs.LooseOperators
import SearchQuery.Proofs.Writing

/-!
# Texts side by side

A text that is put behind another one, with blanks between them, reads as it reads alone: behind a
text with paired quotes and a blank the scan stands where it stands at the beginning. So the clauses
of both texts come one after the other, and what is wrong with the second text is wrong with the
whole, further to the right by the length of all that stands in front of it.
-/

namespace SearchQuery
namespace Grammar

theorem IsGap.exists_cons {w : Text} (hw : IsGap w) (hne : w ≠ []) :
    ∃ c v, w = c :: v ∧ Text.isBlank c = true := by
  obtain ⟨c, v, rfl⟩ := List.exists_cons_of_ne_nil hne
  exact ⟨c, v, rfl, hw c (by simp)⟩

theorem Spells.gap_append {g t : Text} {ss : List Segment} (hg : IsGap g) (h : Spells t ss) :
    Spells (g ++ t) ss := by
  induction g with
  | nil => exact h
  | cons c g ih =>
    obtain ⟨hc, hg⟩ := isGap_cons.1 hg
    exact (ih hg).blank_cons hc

theorem endsTerm_append_gap {rest w t : Text} (h : EndsTerm rest) (hw : IsGap w) (hne : w ≠ []) :
    EndsTerm (rest ++ (w ++ t)) := by
  obtain ⟨c, v, rfl, hc⟩ := hw.exists_cons hne
  cases rest with
  | nil => exact endsTerm_cons.2 (.inl hc)
  | cons d rest => exact endsTerm_cons.2 (endsTerm_cons.1 h)

/-- Two texts with blanks between them spell the segments of both. -/
theorem Spells.append_gap {a w b : Text} {ss ts : List Segment} (ha : Spells a ss)
    (hw : IsGap w) (hne : w ≠ []) (hb : Spells b ts) : Spells (a ++ (w ++ b)) (ss ++ ts) := by
  induction ha with
  | gap hg => exact (hb.gap_append hw).gap_append hg
  | @segment g sign t written rest ss hg ht he _ ih =>
    rw [List.append_assoc, List.cons_append]
    exact .segment hg ht (fun u hu => endsTerm_append_gap (he u hu) hw hne) ih

theorem looseAt_iff_split {text : Text} {i : Nat} :
    LooseAt text i ↔ ∃ before s rest, text = before ++ Sign.char s :: rest ∧ before.length = i ∧
      Opens before ∧ NoBody rest := by
  constructor
  · exact split_of_looseAt
  · rintro ⟨before, s, rest, rfl, rfl, ho, hn⟩
    exact looseAt_of_split ho hn

theorem LooseAt.lt_length {text : Text} {i : Nat} (h : LooseAt text i) : i < text.length := by
  obtain ⟨before, s, rest, rfl, rfl, -⟩ := split_of_looseAt h
  simp

theorem opens_append {before t : Text} (h : Opens before) : Opens (before ++ t) ↔ Opens t := by
  have heven := h.1
  have hcount : (before ++ t).count '"' % 2 = 0 ↔ t.count '"' % 2 = 0 := by
    rw [List.count_append]
    omega
  cases ht : t.getLast? with
  | none =>
    obtain rfl := List.getLast?_eq_none_iff.1 ht
    simp [h, opens_nil]
  | some c => simp only [Opens, hcount, List.getLast?_append, ht, Option.some_or]

theorem IsGap.count_quote {g : Text} (hg : IsGap g) : g.count '"' = 0 :=
  List.count_eq_zero.2 hg.quote_notMem

theorem count_quote_across_gap (a b : Text) {w : Text} (hw : IsGap w) :
    (a ++ w ++ b).count '"' = a.count '"' + b.count '"' := by
  rw [List.count_append, List.count_append, hw.count_quote, Nat.add_zero]

theorem opens_append_gap {a w : Text} (ha : a.count '"' % 2 = 0) (hw : IsGap w) (hne : w ≠ []) :
    Opens (a ++ w) := by
  rcases List.eq_nil_or_concat w with rfl | ⟨v, c, rfl⟩
  · exact absurd rfl hne
  · rw [List.concat_eq_append] at hw ⊢
    have hv : IsGap v := fun d hd => hw d (by simp [hd])
    have hc : Text.isBlank c = true := hw c (by simp)
    rw [← List.append_assoc]
    apply opens_append_blank _ hc
    rw [List.count_append, hv.count_quote]
    exact ha

theorem noBody_append {rest t : Text} (ht : NoBody t) : NoBody (rest ++ t) ↔ NoBody rest := by
  cases rest with
  | nil => simp [ht, noBody_nil]
  | cons c rest => simp [NoBody]

theorem noBody_gap_append {w : Text} (hw : IsGap w) (hne : w ≠ []) (t : Text) :
    NoBody (w ++ t) := by
  obtain ⟨c, v, rfl, hc⟩ := hw.exists_cons hne
  intro d hd
  cases hd
  exact .inl hc

/-- Behind a text where a segment may begin, the same operator symbols are loose. -/
theorem looseAt_append_right {before t : Text} (h : Opens before) {i : Nat} :
    LooseAt (before ++ t) (before.length + i) ↔ LooseAt t i := by
  simp only [looseAt_iff_split]
  constructor
  · rintro ⟨p, s, rest, heq, hlen, ho, hn⟩
    obtain ⟨q, rfl, rfl⟩ : ∃ q, p = before ++ q ∧ t = q ++ s.char :: rest := by
      rcases List.append_eq_append_iff.1 heq with ⟨q, hp, ht⟩ | ⟨q, hbefore, ht⟩
      · exact ⟨q, hp, ht⟩
      · have hq : q = [] := by
          have := congrArg List.length hbefore
          rw [List.length_append] at this
          exact List.length_eq_zero_iff.1 (by omega)
        subst hq
        exact ⟨[], by simp [hbefore], by simpa using ht.symm⟩
    exact ⟨q, s, rest, rfl, by simpa using hlen, (opens_append h).1 ho, hn⟩
  · rintro ⟨q, s, rest, rfl, rfl, ho, hn⟩
    exact ⟨before ++ q, s, rest, by simp, by simp, (opens_append h).2 ho, hn⟩

/-- In front of a text with which no body begins, the same operator symbols are loose. -/
theorem looseAt_append_left {a t : Text} (ht : NoBody t) {i : Nat} (hi : i < a.length) :
    LooseAt (a ++ t) i ↔ LooseAt a i := by
  simp only [looseAt_iff_split]
  constructor
  · rintro ⟨before, s, rest, heq, rfl, ho, hn⟩
    rcases List.append_eq_append_iff.1 heq with ⟨q, rfl, -⟩ | ⟨q, rfl, hq⟩
    · rw [List.length_append] at hi
      omega
    · cases q with
      | nil => simp at hi
      | cons c q =>
        rw [List.cons_append] at hq
        cases hq
        exact ⟨before, s, q, rfl, rfl, ho, (noBody_append ht).1 hn⟩
  · rintro ⟨before, s, rest, rfl, rfl, ho, hn⟩
    exact ⟨before, s, rest ++ t, by simp, rfl, ho, (noBody_append ht).2 hn⟩

section

variable {a w b : Text} (ha : a.count '"' % 2 = 0) (hw : IsGap w) (hne : w ≠ [])
include ha hw hne

/-- With blanks between two texts, the loose operator symbols are those of the one and of the
other. -/
theorem looseAt_across_gap {i : Nat} :
    LooseAt (a ++ w ++ b) i ↔
      LooseAt a i ∨ ∃ j, i = (a ++ w).length + j ∧ LooseAt b j := by
  have hright {j : Nat} := @looseAt_append_right _ b (opens_append_gap ha hw hne) j
  have hleft (hi : i < a.length) : LooseAt (a ++ w ++ b) i ↔ LooseAt a i := by
    rw [List.append_assoc]
    exact looseAt_append_left (noBody_gap_append hw hne b) hi
  constructor
  · intro h
    rcases Nat.lt_or_ge i a.length with hi | hi
    · exact .inl ((hleft hi).1 h)
    · rcases Nat.lt_or_ge i (a ++ w).length with hgap | hgap
      · -- the blanks between the texts are no operator symbols
        have hlt : i - a.length < w.length := by
          rw [List.length_append] at hgap
          omega
        have hc : (a ++ w ++ b)[i]? = some w[i - a.length] := by
          rw [List.getElem?_append_left hgap, List.getElem?_append_right hi,
            List.getElem?_eq_getElem hlt]
        obtain ⟨s, hs⟩ := h.exists_sign hc
        have hblank := hw _ (List.getElem_mem hlt)
        rw [hs, (isPlain_sign s).1] at hblank
        cases hblank
      · obtain ⟨j, rfl⟩ := Nat.exists_eq_add_of_le hgap
        exact .inr ⟨j, rfl, hright.1 h⟩
  · rintro (h | ⟨j, rfl, h⟩)
    · exact (hleft h.lt_length).2 h
    · exact hright.2 h

theorem accepted_across_gap : Accepted (a ++ w ++ b) ↔ Accepted a ∧ Accepted b := by
  have hcount : (a ++ w ++ b).count '"' % 2 = 0 ↔ b.count '"' % 2 = 0 := by
    rw [count_quote_across_gap a b hw]
    omega
  simp only [accepted_iff, hcount, looseAt_across_gap ha hw hne, ha, true_and]
  constructor
  · rintro ⟨hb, hno⟩
    exact ⟨fun i hi => hno i (.inl hi), hb, fun j hj => hno _ (.inr ⟨j, rfl, hj⟩)⟩
  · rintro ⟨hnoa, hb, hnob⟩
    refine ⟨hb, ?_⟩
    rintro i (hi | ⟨j, -, hj⟩)
    · exact hnoa i hi
    · exact hnob j hj

/-- Behind a text without loose operator symbols, the first one of the other text is the first. -/
theorem firstLooseAt_across_gap {i : Nat} (hno : ∀ j, ¬ LooseAt a j) (h : FirstLooseAt b i) :
    FirstLooseAt (a ++ w ++ b) ((a ++ w).length + i) := by
  have hiff {j : Nat} := @looseAt_across_gap a w b ha hw hne j
  refine ⟨hiff.2 (.inr ⟨i, rfl, h.1⟩), ?_⟩
  intro j hj hl
  rcases hiff.1 hl with hj' | ⟨k, rfl, hk⟩
  · exact hno j hj'
  · exact h.2 k (by omega) hk

end

theorem lastQuoteAt_append {before t : Text} {i : Nat} (h : LastQuoteAt t i) :
    LastQuoteAt (before ++ t) (before.length + i) := by
  constructor
  · rw [List.getElem?_append_right (by omega), Nat.add_sub_cancel_left]
    exact h.1
  · intro j hj
    rw [List.getElem?_append_right (by omega)]
    exact h.2 _ (by omega)

/-- What is wrong with a text is wrong with it behind an accepted one, at the same character. -/
theorem parse_error_across_gap {a w b : Text} (ha : Accepted a) (hw : IsGap w) (hne : w ≠ [])
    {r : Rejection} (hb : parse b = .error r) :
    ∃ i : Nat, r.position = some ↑i ∧ parse (a ++ w ++ b) =
      .error ⟨a ++ w ++ b, r.reason, some ↑((a ++ w).length + i)⟩ := by
  obtain ⟨heven, hno⟩ := accepted_iff.1 ha
  have hcount : (a ++ w ++ b).count '"' % 2 = b.count '"' % 2 := by
    rw [count_quote_across_gap a b hw]
    omega
  rcases parse_eq_error_iff.1 hb with ⟨hodd, i, hi, rfl⟩ | ⟨hb', i, s, hi, hs, rfl⟩
  · refine ⟨i, rfl, parse_eq_error_iff.2 (.inl ⟨?_, _, lastQuoteAt_append hi, rfl⟩)⟩
    rw [hcount, hodd]
  · refine ⟨i, rfl, parse_eq_error_iff.2 (.inr ⟨?_, _, s,
      firstLooseAt_across_gap heven hw hne hno hi, ?_, rfl⟩)⟩
    · rw [hcount, hb']
    · rw [List.getElem?_append_right (by omega), Nat.add_sub_cancel_left]
      exact hs

theorem clauses_across_gap {a w b : Text} {cs ds : List Clause} (ha : clauses a = .ok cs)
    (hw : IsGap w) (hne : w ≠ []) (hb : clauses b = .ok ds) :
    clauses (a ++ w ++ b) = .ok (cs ++ ds) := by
  obtain ⟨ss, hss, rfl⟩ := clauses_eq_ok.1 ha
  obtain ⟨ts, hts, rfl⟩ := clauses_eq_ok.1 hb
  rw [List.append_assoc, ← List.map_append]
  exact clauses_of_spells (hss.append_gap hw hne hts)

/-- Blanks part a text into texts that are read on their own: the clauses and the buckets of both
come one after the other, what is wrong with the second is wrong with the whole, and if the quotes
before the blanks are paired, nothing else is. -/
theorem parse_across_gap (a w b : Text) (hw : IsGap w) (hne : w ≠ []) :
    (Accepted a →
      (Accepted b → Accepted (a ++ w ++ b) ∧
        ∃ cs ds, clauses a = .ok cs ∧ clauses b = .ok ds ∧
          clauses (a ++ w ++ b) = .ok (cs ++ ds) ∧
        ∃ p q r, Query.parse a = .ok p ∧ Query.parse b = .ok q ∧
          Query.parse (a ++ w ++ b) = .ok r ∧
          ∀ role, r.bucket role = p.bucket role ++ q.bucket role) ∧
      (∀ r, parse b = .error r → ∃ i : Nat, r.position = some ↑i ∧
        parse (a ++ w ++ b) =
          .error ⟨a ++ w ++ b, r.reason, some ↑(a.length + w.length + i)⟩)) ∧
    (a.count '"' % 2 = 0 → (Accepted (a ++ w ++ b) ↔ Accepted a ∧ Accepted b)) := by
  refine ⟨?_, ?_⟩
  · intro ha
    refine ⟨?_, ?_⟩
    · intro hb
      obtain ⟨cs, hcs⟩ := accepted_iff_clauses.1 ha
      obtain ⟨ds, hds⟩ := accepted_iff_clauses.1 hb
      have hall := clauses_across_gap hcs hw hne hds
      exact ⟨accepted_iff_clauses.2 ⟨_, hall⟩, cs, ds, hcs, hds, hall, _, _, _,
        query_parse_of_clauses hcs, query_parse_of_clauses hds, query_parse_of_clauses hall,
        Query.bucket_grouped_append cs ds⟩
    · intro r hb
      rw [← List.length_append]
      exact parse_error_across_gap ha hw hne hb
  · intro heven
    exact accepted_across_gap heven hw hne

/-- A term that ends in an operator symbol, and a phrase that touches it. -/
def touching : Text := "foo-\"+ x\""

/-- Two clauses with operators; the phrase is empty. -/
def operatorText : Text := "+c++ -\"\""

def doubledSign : Text := "-+- bar"

def tabAndFeed : Text := "\t\n"

theorem parse_across_gap_touching :
    IsGap tabAndFeed ∧ tabAndFeed ≠ [] ∧ touching.count '"' % 2 = 0 ∧
    (Accepted touching ∧ Accepted operatorText ∧
      ∃ cs ds, clauses touching = .ok cs ∧ clauses operatorText = .ok ds ∧
        clauses (touching ++ tabAndFeed ++ operatorText) = .ok (cs ++ ds)) ∧
    (parse doubledSign = .error ⟨doubledSign, .looseOperator '-', some 0⟩ ∧
      parse (touching ++ tabAndFeed ++ doubledSign) =
        .error ⟨touching ++ tabAndFeed ++ doubledSign, .looseOperator '-', some 11⟩) ∧
    ¬ Accepted (touching ++ tabAndFeed ++ doubledSign) := by
  have hw : IsGap tabAndFeed := by decide
  have hne : tabAndFeed ≠ [] := by decide
  have heven : touching.count '"' % 2 = 0 := by decide
  have hfirst : Accepted touching := ⟨_, rfl⟩
  have hsecond : Accepted operatorText := ⟨_, rfl⟩
  have hloose : parse doubledSign = .error ⟨doubledSign, .looseOperator '-', some 0⟩ := rfl
  have hread := parse_across_gap touching tabAndFeed operatorText hw hne
  have hrefused := parse_across_gap touching tabAndFeed doubledSign hw hne
  obtain ⟨-, cs, ds, hcs, hds, hall, -⟩ := (hread.1 hfirst).1 hsecond
  obtain ⟨i, hi, herror⟩ := (hrefused.1 hfirst).2 _ hloose
  obtain rfl : i = 0 := by
    have hzero : (0 : Int) = i := Option.some.inj hi
    omega
  have hnot : ¬ Accepted (touching ++ tabAndFeed ++ doubledSign) := by
    rw [hrefused.2 heven]
    rintro ⟨-, tree, htree⟩
    rw [hloose] at htree
    cases htree
  exact ⟨hw, hne, heven, ⟨hfirst, hsecond, cs, ds, hcs, hds, hall⟩, ⟨hloose, herror⟩, hnot⟩

end Grammar
end SearchQuery
