import Mathlib.Data.List.Forall2
import SearchQuery.Proofs.ParseTrees
import SearchQuery.Proofs.Steps

/-!
# Trees put together by hand

A tree of clauses need not come from a text. Its operators may be no signs, and its bodies neither
terms nor phrases. Reading it gives one clause for each branch in order, or the failure of the
leftmost branch that is no clause, and within a branch the operator is looked at before the body.
This needs tokens that are left alone: a token whose kind is the label of a clause is read as one.
-/

namespace SearchQuery
namespace Grammar

theorem transformAll_eq_ok {ns : List Node} {ps : List Part} :
    transformAll ns = .ok ps ↔ List.Forall₂ (fun n p => transform n = .ok p) ns ps := by
  induction ns generalizing ps with
  | nil => simp [transformAll, pure, Except.pure, eq_comm]
  | cons n ns ih =>
    rw [transformAll, bind_eq_ok_iff, List.forall₂_cons_left_iff]
    constructor
    · rintro ⟨p, hp, hrest⟩
      obtain ⟨ps', hps, h⟩ := bind_eq_ok_iff.1 hrest
      cases h
      exact ⟨p, ps', hp, ih.1 hps, rfl⟩
    · rintro ⟨p, ps', hp, hps, rfl⟩
      exact ⟨p, hp, bind_eq_ok_iff.2 ⟨ps', ih.2 hps, rfl⟩⟩

theorem exists_transformAll_iff {ns : List Node} :
    (∃ ps, transformAll ns = .ok ps) ↔ ∀ n ∈ ns, ∃ p, transform n = .ok p := by
  simp only [transformAll_eq_ok]
  induction ns with
  | nil => simp
  | cons n ns ih =>
    rw [List.forall_mem_cons, ← ih]
    constructor
    · rintro ⟨ps, h⟩
      obtain ⟨p, ps, hp, hps, -⟩ := List.forall₂_cons_left_iff.1 h
      exact ⟨⟨p, hp⟩, ps, hps⟩
    · rintro ⟨⟨p, hp⟩, ps, hps⟩
      exact ⟨p :: ps, .cons hp hps⟩

/-- Reading children in a row stops at the first one that cannot be read. -/
theorem transformAll_eq_error {ns : List Node} {e : QueryError} :
    transformAll ns = .error e ↔
      ∃ before n after, ns = before ++ n :: after ∧ (∀ b ∈ before, ∃ p, transform b = .ok p) ∧
        transform n = .error e := by
  induction ns with
  | nil => simp [transformAll, pure, Except.pure]
  | cons n ns ih =>
    have hrest (p : Part) :
        (transformAll ns >>= fun ps => pure (p :: ps)) = .error e ↔ transformAll ns = .error e := by
      cases transformAll ns <;> simp [pure, Except.pure]
    rw [transformAll, bind_eq_error_iff, exists_first_cons_iff, ← ih]
    simp only [hrest, exists_and_right]

/-! ## Drafts of clauses -/

/-- A label that reading has no rule for, so that what bears it stays what it is. Names of something
else that a reader of trees has, such as `transform`, are left out: they count as labels without a
rule, and no tree is meant to bear them. -/
def Unruled (label : Text) : Prop := label ≠ startLabel ∧ label ≠ clauseLabel

instance (label : Text) : Decidable (Unruled label) :=
  inferInstanceAs (Decidable (label ≠ startLabel ∧ label ≠ clauseLabel))

/-- A token that stays what it is when it is read. -/
structure Token where
  kind : Text
  text : Text
  unruled : Unruled kind

namespace Token

def toNode (t : Token) : Node := .token t.kind t.text

def toPart (t : Token) : Part := .token t.kind t.text

theorem transform_toNode (t : Token) : transform t.toNode = .ok t.toPart :=
  transform_token t.unruled.1 t.unruled.2

theorem map_spelling (ts : List Token) : (ts.map toPart).map Part.spelling = ts.map text :=
  List.map_map

end Token

/-- What stands for a clause in a tree: a token or nothing in the place of the operator, and tokens
under the label of a body. -/
structure Draft where
  operator : Option Token
  label : Text
  tokens : List Token
  unruled : Unruled label

/-- The role that the place of the operator gives. -/
inductive Marks : Option Token → Role → Prop
  | nothing : Marks none .optional
  | plus {t : Token} (h : t.text = "+") : Marks (some t) .required
  | minus {t : Token} (h : t.text = "-") : Marks (some t) .excluded

/-- The body that tokens under a label make. A term is its first token, whatever follows; a phrase
is all its tokens with single spaces between them. -/
inductive Makes (label : Text) (ts : List Token) : Body → Prop
  | term {first : Token} {rest : List Token} (h : label = "term") (hts : ts = first :: rest) :
    Makes label ts (.term first.text)
  | phrase (h : label = "phrase") :
    Makes label ts (.phrase (Text.joinWith " " (ts.map Token.text)))

namespace Draft

variable {d : Draft} {c : Clause} {e : QueryError}

def operatorNode (d : Draft) : Node := (d.operator.map Token.toNode).getD .absent

def toNode (d : Draft) : Node :=
  .branch clauseLabel [d.operatorNode, .branch d.label (d.tokens.map Token.toNode)]

/-- The clause that a draft stands for. -/
def Gives (d : Draft) (c : Clause) : Prop := Marks d.operator c.role ∧ Makes d.label d.tokens c.body

def KnownOperator (d : Draft) : Prop := ∀ t, d.operator = some t → t.text = "+" ∨ t.text = "-"

def KnownBody (d : Draft) : Prop := d.label = "phrase" ∨ d.label = "term" ∧ d.tokens ≠ []

/-- What is wrong with a draft. The body is to blame only if the operator is not. -/
inductive Fault (d : Draft) : QueryError → Prop
  | operator {t : Token} (ht : d.operator = some t) (hplus : t.text ≠ "+") (hminus : t.text ≠ "-") :
    Fault d (.unknownOperator (.scalar (.text t.text)))
  | body (hop : d.KnownOperator) (hterm : d.label ≠ "term") (hphrase : d.label ≠ "phrase") :
    Fault d (.unknownBody (.branch d.label (d.tokens.map Token.toPart)))
  | emptyTerm (hop : d.KnownOperator) (hterm : d.label = "term") (hempty : d.tokens = []) :
    Fault d .emptyTerm

theorem exists_marks_iff : (∃ role, Marks d.operator role) ↔ d.KnownOperator := by
  constructor
  · rintro ⟨role, h⟩ t ht
    rw [ht] at h
    cases h with
    | plus h => exact .inl h
    | minus h => exact .inr h
  · intro h
    cases ho : d.operator with
    | none => exact ⟨_, .nothing⟩
    | some t =>
      rcases h t ho with hplus | hminus
      · exact ⟨_, .plus hplus⟩
      · exact ⟨_, .minus hminus⟩

theorem exists_makes_iff : (∃ b, Makes d.label d.tokens b) ↔ d.KnownBody := by
  constructor
  · rintro ⟨b, h⟩
    cases h with
    | term h hts => exact .inr ⟨h, by simp [hts]⟩
    | phrase h => exact .inl h
  · rintro (hphrase | ⟨hterm, hne⟩)
    · exact ⟨_, .phrase hphrase⟩
    · obtain ⟨first, rest, hts⟩ := List.exists_cons_of_ne_nil hne
      exact ⟨_, .term hterm hts⟩

theorem exists_gives_iff : (∃ c, d.Gives c) ↔ d.KnownOperator ∧ d.KnownBody := by
  rw [← exists_marks_iff, ← exists_makes_iff]
  constructor
  · rintro ⟨c, hrole, hbody⟩
    exact ⟨⟨_, hrole⟩, _, hbody⟩
  · rintro ⟨⟨role, hrole⟩, body, hbody⟩
    exact ⟨⟨role, body⟩, hrole, hbody⟩

theorem gives_or_fault (d : Draft) : (∃ c, d.Gives c) ∨ ∃ e, d.Fault e := by
  rw [exists_gives_iff]
  by_cases hop : d.KnownOperator
  · by_cases hterm : d.label = "term"
    · by_cases hempty : d.tokens = []
      · exact .inr ⟨_, .emptyTerm hop hterm hempty⟩
      · exact .inl ⟨hop, .inr ⟨hterm, hempty⟩⟩
    · by_cases hphrase : d.label = "phrase"
      · exact .inl ⟨hop, .inl hphrase⟩
      · exact .inr ⟨_, .body hop hterm hphrase⟩
  · unfold KnownOperator at hop
    push Not at hop
    obtain ⟨t, ht, hplus, hminus⟩ := hop
    exact .inr ⟨_, .operator ht hplus hminus⟩

def operatorPart (d : Draft) : Part := (d.operator.map Token.toPart).getD .absent

def bodyPart (d : Draft) : Part := .branch d.label (d.tokens.map Token.toPart)

theorem roleOfSymbol_of_marks {role : Role} (h : Marks d.operator role) :
    roleOfSymbol (symbolOf d.operatorPart) = .ok role := by
  unfold operatorPart
  generalize d.operator = o at h
  cases h with
  | nothing => rfl
  | @plus t h =>
    change roleOfSymbol (.text t.text) = _
    rw [h]
    rfl
  | @minus t h =>
    change roleOfSymbol (.text t.text) = _
    rw [h]
    rfl

theorem roleOfSymbol_of_unknown {t : Token} (ht : d.operator = some t) (hplus : t.text ≠ "+")
    (hminus : t.text ≠ "-") :
    roleOfSymbol (symbolOf d.operatorPart) =
      .error (.unknownOperator (.scalar (.text t.text))) := by
  have hsymbol : symbolOf d.operatorPart = .text t.text := by
    rw [operatorPart, ht]
    rfl
  unfold roleOfSymbol
  rw [hsymbol, if_neg (by simp), if_neg (by simpa using hplus), if_neg (by simpa using hminus)]

theorem bodyOf_of_makes {b : Body} (h : Makes d.label d.tokens b) : bodyOf d.bodyPart = .ok b := by
  unfold bodyOf bodyPart termLabel phraseLabel
  dsimp only
  cases h with
  | term h hts =>
    rw [if_pos h, hts]
    rfl
  | phrase h =>
    rw [if_neg (by rw [h]; decide), if_pos h, Token.map_spelling]

theorem bodyOf_of_unknown (hterm : d.label ≠ "term") (hphrase : d.label ≠ "phrase") :
    bodyOf d.bodyPart = .error (.unknownBody d.bodyPart) := by
  unfold bodyOf bodyPart termLabel phraseLabel
  dsimp only
  rw [if_neg hterm, if_neg hphrase]

theorem bodyOf_of_empty (hterm : d.label = "term") (hempty : d.tokens = []) :
    bodyOf d.bodyPart = .error .emptyTerm := by
  unfold bodyOf bodyPart termLabel phraseLabel
  dsimp only
  rw [if_pos hterm, hempty]
  rfl

theorem clauseOf_of_gives (h : d.Gives c) : clauseOf [d.operatorPart, d.bodyPart] = .ok c := by
  rw [clauseOf, roleOfSymbol_of_marks h.1, bodyOf_of_makes h.2]
  rfl

theorem clauseOf_of_fault (h : d.Fault e) : clauseOf [d.operatorPart, d.bodyPart] = .error e := by
  rw [clauseOf]
  cases h with
  | operator ht hplus hminus =>
    rw [roleOfSymbol_of_unknown ht hplus hminus]
    rfl
  | body hop hterm hphrase =>
    obtain ⟨role, hrole⟩ := exists_marks_iff.2 hop
    rw [roleOfSymbol_of_marks hrole, bodyOf_of_unknown hterm hphrase]
    rfl
  | emptyTerm hop hterm hempty =>
    obtain ⟨role, hrole⟩ := exists_marks_iff.2 hop
    rw [roleOfSymbol_of_marks hrole, bodyOf_of_empty hterm hempty]
    rfl

theorem transform_operatorNode (d : Draft) : transform d.operatorNode = .ok d.operatorPart := by
  unfold operatorNode operatorPart
  cases d.operator with
  | none => rfl
  | some t => exact t.transform_toNode

theorem assemble_unruled {label : Text} (h : Unruled label) (ps : List Part) (otherwise : Part) :
    assemble label ps otherwise = .ok otherwise := by
  rw [assemble, if_neg h.1, if_neg h.2]

theorem transform_toNode (d : Draft) :
    transform d.toNode = (clauseOf [d.operatorPart, d.bodyPart]).map .clause := by
  have hbody : transform (.branch d.label (d.tokens.map Token.toNode)) = .ok d.bodyPart := by
    rw [transform_branch (transformAll_map Token.transform_toNode d.tokens),
      assemble_unruled d.unruled]
    rfl
  have hchildren := transformAll_eq_ok.2 (.cons d.transform_operatorNode (.cons hbody .nil))
  rw [toNode, transform_branch hchildren, assemble, if_neg (by decide), if_pos rfl]

/-- A draft is read as its clause if it has one, and else its fault is the failure. -/
theorem transform_toNode_eq_ok {p : Part} :
    transform d.toNode = .ok p ↔ ∃ c, d.Gives c ∧ p = .clause c := by
  rw [transform_toNode]
  constructor
  · -- every draft has a clause or a fault, and a fault is a failure
    intro h
    rcases d.gives_or_fault with ⟨c, hc⟩ | ⟨e, he⟩
    · rw [clauseOf_of_gives hc] at h
      cases h
      exact ⟨c, hc, rfl⟩
    · rw [clauseOf_of_fault he] at h
      cases h
  · rintro ⟨c, hc, rfl⟩
    rw [clauseOf_of_gives hc]
    rfl

theorem exists_transform_toNode_iff :
    (∃ p, transform d.toNode = .ok p) ↔ d.KnownOperator ∧ d.KnownBody := by
  rw [← exists_gives_iff]
  constructor
  · rintro ⟨p, hp⟩
    obtain ⟨c, hc, -⟩ := transform_toNode_eq_ok.1 hp
    exact ⟨c, hc⟩
  · rintro ⟨c, hc⟩
    exact ⟨.clause c, transform_toNode_eq_ok.2 ⟨c, hc, rfl⟩⟩

theorem transform_toNode_eq_error : transform d.toNode = .error e ↔ d.Fault e := by
  rw [transform_toNode]
  constructor
  · intro h
    rcases d.gives_or_fault with ⟨c, hc⟩ | ⟨e', he⟩
    · rw [clauseOf_of_gives hc] at h
      cases h
    · rw [clauseOf_of_fault he] at h
      cases h
      exact he
  · intro he
    rw [clauseOf_of_fault he]
    rfl

end Draft

/-! ## Reading drafts side by side -/

/-- What is related to images of a function is related through the things they are images of. -/
theorem forall₂_exists_eq {α β γ : Type} {R : α → β → Prop} {f : β → γ} {as : List α}
    {xs : List γ} :
    List.Forall₂ (fun a x => ∃ b, R a b ∧ x = f b) as xs ↔
      ∃ bs, List.Forall₂ R as bs ∧ xs = bs.map f := by
  constructor
  · intro h
    induction h with
    | nil => exact ⟨[], .nil, rfl⟩
    | cons h _ ih =>
      obtain ⟨b, hb, rfl⟩ := h
      obtain ⟨bs, hbs, rfl⟩ := ih
      exact ⟨b :: bs, .cons hb hbs, rfl⟩
  · rintro ⟨bs, h, rfl⟩
    rw [List.forall₂_map_right_iff]
    exact h.imp fun a b hb => ⟨b, hb, rfl⟩

variable {ds : List Draft} {e : QueryError}

theorem transformAll_drafts_eq_ok {ps : List Part} :
    transformAll (ds.map Draft.toNode) = .ok ps ↔
      ∃ cs, List.Forall₂ Draft.Gives ds cs ∧ ps = cs.map .clause := by
  rw [transformAll_eq_ok, List.forall₂_map_left_iff, ← forall₂_exists_eq]
  simp only [Draft.transform_toNode_eq_ok]

theorem exists_transformAll_drafts_iff :
    (∃ ps, transformAll (ds.map Draft.toNode) = .ok ps) ↔
      ∀ d ∈ ds, d.KnownOperator ∧ d.KnownBody := by
  rw [exists_transformAll_iff, List.forall_mem_map]
  simp only [Draft.exists_transform_toNode_iff]

theorem transformAll_drafts_eq_error :
    transformAll (ds.map Draft.toNode) = .error e ↔
      ∃ before d after, ds = before ++ d :: after ∧
        (∀ b ∈ before, b.KnownOperator ∧ b.KnownBody) ∧ d.Fault e := by
  rw [transformAll_eq_error]
  constructor
  · rintro ⟨before, n, after, hsplit, hbefore, hn⟩
    obtain ⟨before, rest, rfl, rfl, hrest⟩ := List.map_eq_append_iff.1 hsplit
    obtain ⟨d, after, rfl, rfl, rfl⟩ := List.map_eq_cons_iff.1 hrest
    refine ⟨before, d, after, rfl, ?_, Draft.transform_toNode_eq_error.1 hn⟩
    intro b hb
    exact Draft.exists_transform_toNode_iff.1 (hbefore _ (List.mem_map_of_mem hb))
  · rintro ⟨before, d, after, rfl, hbefore, hd⟩
    refine ⟨before.map Draft.toNode, d.toNode, after.map Draft.toNode, by simp, ?_,
      Draft.transform_toNode_eq_error.2 hd⟩
    intro n hn
    obtain ⟨b, hb, rfl⟩ := List.mem_map.1 hn
    exact Draft.exists_transform_toNode_iff.2 (hbefore b hb)

def draftTree (ds : List Draft) : Node := .branch startLabel (ds.map Draft.toNode)

theorem transform_draftTree (ds : List Draft) :
    transform (draftTree ds) = (transformAll (ds.map Draft.toNode)).map .list := by
  unfold draftTree transform
  cases transformAll (ds.map Draft.toNode) with
  | error e => rfl
  | ok ps => rfl

theorem transform_draftTree_eq_ok {p : Part} :
    transform (draftTree ds) = .ok p ↔
      ∃ ps, transformAll (ds.map Draft.toNode) = .ok ps ∧ p = .list ps := by
  rw [transform_draftTree]
  cases transformAll (ds.map Draft.toNode) <;> simp [Except.map, eq_comm]

theorem transform_draftTree_eq_error :
    transform (draftTree ds) = .error e ↔ transformAll (ds.map Draft.toNode) = .error e := by
  rw [transform_draftTree]
  cases transformAll (ds.map Draft.toNode) <;> simp [Except.map]

/-- Drafts are read as their clauses, one for each and in order, exactly if all of them have an
operator and a body that are known. Otherwise the leftmost draft that lacks one of them is the
failure, and this failure is its own fault. -/
theorem transform_leftmost_fault (ds : List Draft) :
    (∀ p, transform (draftTree ds) = .ok p ↔
      ∃ cs, List.Forall₂ Draft.Gives ds cs ∧ p = .list (cs.map .clause)) ∧
    ((∃ p, transform (draftTree ds) = .ok p) ↔ ∀ d ∈ ds, d.KnownOperator ∧ d.KnownBody) ∧
    ∀ e, transform (draftTree ds) = .error e ↔
      ∃ before d after, ds = before ++ d :: after ∧
        (∀ b ∈ before, b.KnownOperator ∧ b.KnownBody) ∧ d.Fault e := by
  refine ⟨?_, ?_, ?_⟩
  · intro p
    simp only [transform_draftTree_eq_ok, transformAll_drafts_eq_ok]
    constructor
    · rintro ⟨ps, ⟨cs, hcs, rfl⟩, rfl⟩
      exact ⟨cs, hcs, rfl⟩
    · rintro ⟨cs, hcs, rfl⟩
      exact ⟨_, ⟨cs, hcs, rfl⟩, rfl⟩
  · rw [← exists_transformAll_drafts_iff]
    simp only [transform_draftTree_eq_ok]
    constructor
    · rintro ⟨p, ps, hps, -⟩
      exact ⟨ps, hps⟩
    · rintro ⟨ps, hps⟩
      exact ⟨_, ps, hps, rfl⟩
  · intro e
    rw [transform_draftTree_eq_error, transformAll_drafts_eq_error]

def wordlessDraft : Draft := ⟨none, "phrase", [], by decide⟩

def doubleDraft : Draft where
  operator := some ⟨"OPERATOR", "-", by decide⟩
  label := "term"
  tokens := [⟨"TERM", "a", by decide⟩, ⟨"TERM", "b", by decide⟩]
  unruled := by decide

def hollowDraft : Draft := ⟨some ⟨"", "+", by decide⟩, "term", [], by decide⟩

/-- A draft with two faults. -/
def unknownDraft : Draft where
  operator := some ⟨"OPERATOR", "~", by decide⟩
  label := "range"
  tokens := [⟨"TERM", "1", by decide⟩]
  unruled := by decide

/-- Of several faults the leftmost counts, and in one draft that of the operator. -/
theorem transform_leftmost_fault_drafts :
    transform (draftTree [wordlessDraft, doubleDraft]) =
      .ok (.list [.clause ⟨.optional, .phrase ""⟩, .clause ⟨.excluded, .term "a"⟩]) ∧
    transform (draftTree [wordlessDraft, unknownDraft, hollowDraft]) =
      .error (.unknownOperator (.scalar (.text "~"))) ∧
    transform (draftTree [doubleDraft, hollowDraft, unknownDraft]) = .error .emptyTerm := by
  have hwordless : wordlessDraft.Gives ⟨.optional, .phrase ""⟩ := ⟨.nothing, .phrase rfl⟩
  have hdouble : doubleDraft.Gives ⟨.excluded, .term "a"⟩ := ⟨.minus rfl, .term rfl rfl⟩
  have hunknown : unknownDraft.Fault (.unknownOperator (.scalar (.text "~"))) :=
    @Draft.Fault.operator _ ⟨"OPERATOR", "~", by decide⟩ rfl (by decide) (by decide)
  have hhollow : hollowDraft.Fault .emptyTerm := by
    refine .emptyTerm ?_ rfl rfl
    rintro t ⟨⟩
    exact .inl rfl
  obtain ⟨hread, -, -⟩ := transform_leftmost_fault [wordlessDraft, doubleDraft]
  obtain ⟨-, -, hoperator⟩ := transform_leftmost_fault [wordlessDraft, unknownDraft, hollowDraft]
  obtain ⟨-, -, hempty⟩ := transform_leftmost_fault [doubleDraft, hollowDraft, unknownDraft]
  refine ⟨?_, ?_, ?_⟩
  · exact (hread _).2 ⟨_, .cons hwordless (.cons hdouble .nil), rfl⟩
  · apply (hoperator _).2
    exact ⟨[wordlessDraft], unknownDraft, [hollowDraft], rfl,
      List.forall_mem_singleton.2 (Draft.exists_gives_iff.1 ⟨_, hwordless⟩), hunknown⟩
  · apply (hempty _).2
    exact ⟨[doubleDraft], hollowDraft, [unknownDraft], rfl,
      List.forall_mem_singleton.2 (Draft.exists_gives_iff.1 ⟨_, hdouble⟩), hhollow⟩

/-- A token whose kind is the label of a clause is no operator, whatever its text is: it is read as
a clause of its own and lacks a body. -/
theorem transform_token_with_rule :
    transform (.branch "start" [.branch "clause"
      [.token "clause" "+", .branch "term" [.token "TERM" "a"]]]) = .error .misshapenClause ∧
    transform (.branch "start" [.branch "clause"
      [.token "OPERATOR" "+", .branch "term" [.token "TERM" "a"]]]) =
      .ok (.list [.clause ⟨.required, .term "a"⟩]) :=
  ⟨rfl, rfl⟩

end Grammar
end SearchQuery
