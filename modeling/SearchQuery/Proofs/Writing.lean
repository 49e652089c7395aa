import SearchQuery.Proofs.Grouping
import SearchQuery.Proofs.ParseTrees

/-!
# Writing clauses as texts

Clauses are written one after the other with single spaces between them. The clauses that texts
have are exactly the well-formed ones: they can be written, and what is written reads as the same
clauses.
-/

namespace SearchQuery

open Grammar

namespace Body

/-- A term that can be written, or words with single spaces between them. -/
def WellFormed : Body → Prop
  | .term t => IsTerm t
  | .phrase p => ∃ words, (∀ w ∈ words, IsWord w) ∧ p = Text.joinWith " " words

def written : Body → Text
  | .term t => t
  | .phrase p => '"' :: p ++ ['"']

end Body

namespace Clause

def WellFormed (c : Clause) : Prop := c.body.WellFormed

def written (c : Clause) : Text := c.role.symbol ++ c.body.written

end Clause

namespace Grammar

def written (cs : List Clause) : Text := Text.joinWith " " (cs.map Clause.written)

def signOfRole : Role → Option Sign
  | .optional => none
  | .required => some .plus
  | .excluded => some .minus

theorem roleOfSign_signOfRole (role : Role) : roleOfSign (signOfRole role) = role := by
  cases role <;> rfl

theorem signText_signOfRole (role : Role) : signText (signOfRole role) = role.symbol := by
  cases role <;> rfl

theorem isBlank_space : Text.isBlank ' ' = true := by decide

theorem spellsWords_joinWith {words : List Text} (h : ∀ w ∈ words, IsWord w) :
    SpellsWords (Text.joinWith " " words) words := by
  induction words with
  | nil => exact .gap isGap_nil
  | cons w words ih =>
    have hw := h w (by simp)
    have hrest := ih fun u hu => h u (by simp [hu])
    cases words with
    | nil =>
      rw [Text.joinWith_singleton]
      simpa using SpellsWords.word isGap_nil hw endsWord_nil (.gap isGap_nil)
    | cons u words =>
      rw [Text.joinWith_cons_cons, List.append_assoc]
      exact .word isGap_nil hw (endsWord_cons.2 isBlank_space) (hrest.blank_cons isBlank_space)

/-- A well-formed body is spelled by its text. -/
theorem exists_spellsBody {b : Body} (h : b.WellFormed) :
    ∃ w, SpellsBody b.written w ∧ w.body = b := by
  cases b with
  | term t => exact ⟨.term t, .term h, rfl⟩
  | phrase p =>
    obtain ⟨words, hw, rfl⟩ := h
    exact ⟨.phrase words, .phrase (spellsWords_joinWith hw), rfl⟩

theorem exists_segment_written {c : Clause} (h : c.WellFormed) :
    ∃ s : Segment, s.clause = c ∧ ∀ {rest ss}, EndsTerm rest → Spells rest ss →
      Spells (c.written ++ rest) (s :: ss) := by
  obtain ⟨role, body⟩ := c
  obtain ⟨w, hw, rfl⟩ := exists_spellsBody h
  refine ⟨⟨signOfRole role, w⟩, ?_, ?_⟩
  · rw [Segment.clause, roleOfSign_signOfRole]
  · intro rest ss he hss
    rw [Clause.written, ← signText_signOfRole]
    exact .segment isGap_nil hw (fun _ _ => he) hss

theorem exists_spells_written {cs : List Clause} (h : ∀ c ∈ cs, c.WellFormed) :
    ∃ ss, Spells (written cs) ss ∧ ss.map Segment.clause = cs := by
  induction cs with
  | nil => exact ⟨[], .gap isGap_nil, rfl⟩
  | cons c cs ih =>
    obtain ⟨s, rfl, hs⟩ := exists_segment_written (h c (by simp))
    obtain ⟨ss, hss, rfl⟩ := ih fun d hd => h d (by simp [hd])
    refine ⟨s :: ss, ?_, rfl⟩
    -- the space in front of the next clause ends a term and is a gap before that clause
    cases ss with
    | nil => simpa [written] using hs endsTerm_nil (.gap isGap_nil)
    | cons t ss =>
      have hspace : written (s.clause :: (t :: ss).map Segment.clause) =
          s.clause.written ++ ' ' :: written ((t :: ss).map Segment.clause) := by
        simp [written, Text.joinWith_cons_cons]
      rw [hspace]
      exact hs (endsTerm_cons.2 (.inl isBlank_space)) (hss.blank_cons isBlank_space)

/-- Well-formed clauses read as they are written. -/
theorem clauses_written {cs : List Clause} (h : ∀ c ∈ cs, c.WellFormed) :
    clauses (written cs) = .ok cs := by
  obtain ⟨ss, hss, rfl⟩ := exists_spells_written h
  exact clauses_of_spells hss

theorem wellFormed_body {t : Text} {w : Written} (h : SpellsBody t w) : w.body.WellFormed := by
  cases h with
  | term ht => exact ht
  | phrase hw => exact ⟨_, fun _ hu => hw.mem_isWord hu, rfl⟩

theorem wellFormed_of_spells {text : Text} {ss : List Segment} (h : Spells text ss) :
    ∀ c ∈ ss.map Segment.clause, c.WellFormed := by
  induction h with
  | gap _ => simp
  | segment _ ht _ _ ih =>
    intro c hc
    rcases List.mem_cons.1 hc with rfl | hc
    · exact wellFormed_body ht
    · exact ih c hc

/-- The clauses of a text are well-formed. -/
theorem wellFormed_of_clauses {text : Text} {cs : List Clause} (h : clauses text = .ok cs) :
    ∀ c ∈ cs, c.WellFormed := by
  obtain ⟨ss, hss, rfl⟩ := clauses_eq_ok.1 h
  exact wellFormed_of_spells hss

theorem exists_clauses {text : Text} {tree : Node} (h : parse text = .ok tree) :
    ∃ cs, clauses text = .ok cs := by
  obtain ⟨ss, hss, -⟩ := parse_eq_ok.1 h
  exact ⟨_, clauses_of_spells hss⟩

theorem query_parse_of_clauses {text : Text} {cs : List Clause} (h : clauses text = .ok cs) :
    Query.parse text = .ok (Query.grouped cs) := by
  rw [Query.parse, h]
  exact Query.ofClauses_eq cs

theorem query_parse_written_byRole {cs : List Clause} (h : ∀ c ∈ cs, c.WellFormed) :
    Query.parse (written (Query.byRole cs)) = .ok (Query.grouped cs) := by
  have hbyRole : ∀ c ∈ Query.byRole cs, c.WellFormed := by
    intro c hc
    exact h c (Query.mem_byRole.1 hc)
  rw [query_parse_of_clauses (clauses_written hbyRole), Query.grouped_byRole]

/-- The clauses that texts have are exactly the well-formed ones. -/
theorem exists_clauses_eq_ok_iff {cs : List Clause} :
    (∃ text, clauses text = .ok cs) ↔ ∀ c ∈ cs, c.WellFormed := by
  constructor
  · rintro ⟨text, h⟩
    exact wellFormed_of_clauses h
  · intro h
    exact ⟨written cs, clauses_written h⟩

/-- Reading and writing are inverse on well-formed clauses, texts have no other clauses, and a
query reads the same from its own clauses. -/
theorem written_round_trip :
    (∀ cs : List Clause, (∃ text, clauses text = .ok cs) ↔ ∀ c ∈ cs, c.WellFormed) ∧
    (∀ cs : List Clause, (∀ c ∈ cs, c.WellFormed) → clauses (written cs) = .ok cs) ∧
    (∀ text tree, parse text = .ok tree → ∃ cs, clauses text = .ok cs ∧
      (∀ c ∈ cs, c.WellFormed) ∧ clauses (written cs) = .ok cs) ∧
    (∀ text tree, parse text = .ok tree → ∃ q cs, Query.parse text = .ok q ∧
      q.items = cs.map Item.clause ∧ Query.parse (written cs) = .ok q) := by
  refine ⟨fun _ => exists_clauses_eq_ok_iff, fun _ => clauses_written, ?_, ?_⟩
  · intro text tree h
    obtain ⟨cs, hcs⟩ := exists_clauses h
    have hwf := wellFormed_of_clauses hcs
    exact ⟨cs, hcs, hwf, clauses_written hwf⟩
  · intro text tree h
    obtain ⟨cs, hcs⟩ := exists_clauses h
    exact ⟨Query.grouped cs, Query.byRole cs, query_parse_of_clauses hcs,
      Query.items_grouped cs, query_parse_written_byRole (wellFormed_of_clauses hcs)⟩

/-- Symbols inside a term or a phrase are no operators. -/
def symbolClauses : List Clause :=
  [⟨.required, .term "c++"⟩, ⟨.excluded, .phrase "-5 degrees"⟩, ⟨.optional, .phrase ""⟩]

/-- A text whose clauses touch and whose phrase is written with other blanks. -/
def symbolText : Text := "c++\"-5  degrees\" +x"

theorem written_round_trip_symbols :
    (∀ c ∈ symbolClauses, c.WellFormed) ∧
    clauses (written symbolClauses) = .ok symbolClauses ∧
    ∃ tree, parse symbolText = .ok tree ∧ ∃ q cs, Query.parse symbolText = .ok q ∧
      q.items = cs.map Item.clause ∧ Query.parse (written cs) = .ok q := by
  have hwf : ∀ c ∈ symbolClauses, c.WellFormed := by
    have hterm : IsTerm "c++" := by decide
    have hphrase : Body.WellFormed (.phrase "-5 degrees") :=
      ⟨["-5", "degrees"], by decide, rfl⟩
    have hempty : Body.WellFormed (.phrase "") := ⟨[], by simp, rfl⟩
    intro c hc
    simp only [symbolClauses, List.mem_cons, List.not_mem_nil, or_false] at hc
    rcases hc with rfl | rfl | rfl
    · exact hterm
    · exact hphrase
    · exact hempty
  obtain ⟨tree, htree⟩ : ∃ tree, parse symbolText = .ok tree := ⟨_, rfl⟩
  exact ⟨hwf, written_round_trip.2.1 symbolClauses hwf, tree, htree,
    written_round_trip.2.2.2 symbolText tree htree⟩

end Grammar
end SearchQuery
