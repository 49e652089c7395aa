import SearchQuery.Grammar.Reading
import SearchQuery.Proofs.Scanning

/-!
# Trees of accepted texts

A text is accepted exactly if it spells segments, and its tree lists them one by one. Reading such
a tree never fails: every segment becomes one clause.
-/

namespace SearchQuery
namespace Grammar

/-- The place of the operator: its token, or nothing. -/
def operatorPlace : Option Sign → Node
  | none => .absent
  | some .plus => .token "OPERATOR" "+"
  | some .minus => .token "OPERATOR" "-"

def bodyBranch : Written → Node
  | .term text => .branch "term" [.token "TERM" text]
  | .phrase words => .branch "phrase" (words.map fun word => .token "PHRASE_WORD" word)

def clauseBranch (s : Segment) : Node :=
  .branch "clause" [operatorPlace s.sign, bodyBranch s.written]

theorem toNode_eq_clauseBranch (s : Segment) : s.toNode = clauseBranch s := by
  obtain ⟨sign, written⟩ := s
  rcases sign with _ | sign
  · cases written <;> rfl
  · cases sign <;> cases written <;> rfl

theorem treeOf_eq (ss : List Segment) : treeOf ss = .branch "start" (ss.map clauseBranch) := by
  rw [treeOf, List.map_congr_left fun s _ => toNode_eq_clauseBranch s]
  rfl

theorem parse_of_segments {text : Text} {ss : List Segment} (h : segments text = .ok ss) :
    parse text = .ok (treeOf ss) := by
  rw [parse, h]

theorem parse_of_error {text : Text} {offset : Nat} (h : segments text = .error offset) :
    parse text = .error (Rejection.explain text (some offset)) := by
  rw [parse, h]
  rfl

theorem parse_eq_ok {text : Text} {tree : Node} :
    parse text = .ok tree ↔ ∃ ss, Spells text ss ∧ tree = treeOf ss := by
  constructor
  · intro h
    cases hs : segments text with
    | error offset =>
      rw [parse_of_error hs] at h
      cases h
    | ok ss =>
      rw [parse_of_segments hs] at h
      cases h
      exact ⟨ss, segments_eq_ok_iff.1 hs, rfl⟩
  · rintro ⟨ss, hss, rfl⟩
    exact parse_of_segments (segments_of_spells hss)

/-- Accepted are the texts that spell segments, with a tree that has one branch for each segment
in the order of the text; all other texts are rejected. -/
theorem parse_exact (text : Text) :
    (∀ tree, parse text = .ok tree ↔
      ∃ ss, Spells text ss ∧ tree = .branch "start" (ss.map clauseBranch)) ∧
    ((∃ r, parse text = .error r) ↔ ¬ ∃ ss, Spells text ss) := by
  constructor
  · intro tree
    simp only [parse_eq_ok, treeOf_eq]
  · constructor
    · rintro ⟨r, hr⟩ ⟨ss, hss⟩
      rw [parse_of_segments (segments_of_spells hss)] at hr
      cases hr
    · intro h
      cases hp : parse text with
      | error r => exact ⟨r, rfl⟩
      | ok tree =>
        obtain ⟨ss, hss, -⟩ := parse_eq_ok.1 hp
        exact absurd ⟨ss, hss⟩ h

def roleOfSign : Option Sign → Role
  | none => .optional
  | some .plus => .required
  | some .minus => .excluded

def Written.body : Written → Body
  | .term text => .term text
  | .phrase words => .phrase (Text.joinWith " " words)

def Segment.clause (s : Segment) : Clause := ⟨roleOfSign s.sign, s.written.body⟩

/-- A token without a label of its own stays a token. -/
theorem transform_token {kind text : Text} (hs : kind ≠ startLabel) (hc : kind ≠ clauseLabel) :
    transform (.token kind text) = .ok (.token kind text) := by
  simp [transform, assemble, hs, hc]

theorem transform_branch {label : Text} {children : List Node} {parts : List Part}
    (h : transformAll children = .ok parts) :
    transform (.branch label children) = assemble label parts (.branch label parts) := by
  rw [transform, h]
  rfl

/-- Children that can all be read are read one by one. -/
theorem transformAll_map {α : Type} {f : α → Node} {g : α → Part}
    (h : ∀ a, transform (f a) = .ok (g a)) (as : List α) :
    transformAll (as.map f) = .ok (as.map g) := by
  induction as with
  | nil => rfl
  | cons a as ih =>
    rw [List.map_cons, transformAll, h a, ih]
    rfl

theorem transformAll_words (words : List Text) :
    transformAll (words.map fun word => Node.token "PHRASE_WORD" word) =
      .ok (words.map fun word => Part.token "PHRASE_WORD" word) :=
  transformAll_map (fun _ => transform_token (by decide) (by decide)) words

/-- The operator place as it is when the clause is put together. -/
def operatorPart : Option Sign → Part
  | none => .absent
  | some s => .token "OPERATOR" [s.char]

theorem transform_operatorPlace (sign : Option Sign) :
    transform (operatorPlace sign) = .ok (operatorPart sign) := by
  rcases sign with _ | s
  · rfl
  · cases s <;> exact transform_token (by decide) (by decide)

theorem roleOfSymbol_operatorPart (sign : Option Sign) :
    roleOfSymbol (symbolOf (operatorPart sign)) = .ok (roleOfSign sign) := by
  rcases sign with _ | s
  · rfl
  · cases s <;> rfl

/-- The body as it is when the clause is put together. -/
def bodyPart : Written → Part
  | .term text => .branch "term" [.token "TERM" text]
  | .phrase words => .branch "phrase" (words.map fun word => .token "PHRASE_WORD" word)

theorem transform_bodyBranch (w : Written) : transform (bodyBranch w) = .ok (bodyPart w) := by
  cases w with
  | term text =>
    have htoken : transformAll [.token "TERM" text] = .ok [.token "TERM" text] := by
      rw [transformAll, transform_token (by decide) (by decide)]
      rfl
    exact transform_branch htoken
  | phrase words => exact transform_branch (transformAll_words words)

theorem bodyOf_bodyPart (w : Written) : bodyOf (bodyPart w) = .ok w.body := by
  cases w with
  | term text => rfl
  | phrase words =>
    have hspell : (words.map fun word => Part.token "PHRASE_WORD" word).map Part.spelling =
        words := by
      rw [List.map_map]
      exact List.map_id words
    dsimp only [bodyPart, bodyOf]
    rw [if_neg (by decide), if_pos (by decide), hspell]
    rfl

theorem assemble_clause {parts : List Part} {c : Clause} (otherwise : Part)
    (h : clauseOf parts = .ok c) : assemble "clause" parts otherwise = .ok (.clause c) := by
  rw [assemble, if_neg (by decide), if_pos (by decide), h]
  rfl

theorem transform_toNode (s : Segment) : transform s.toNode = .ok (.clause s.clause) := by
  have hall : transformAll [operatorPlace s.sign, bodyBranch s.written] =
      .ok [operatorPart s.sign, bodyPart s.written] := by
    simp only [transformAll, transform_operatorPlace, transform_bodyBranch]
    rfl
  have hclause : clauseOf [operatorPart s.sign, bodyPart s.written] = .ok s.clause := by
    rw [clauseOf, roleOfSymbol_operatorPart, bodyOf_bodyPart]
    rfl
  rw [toNode_eq_clauseBranch, clauseBranch, transform_branch hall, assemble_clause _ hclause]

theorem transformAll_toNode (ss : List Segment) :
    transformAll (ss.map Segment.toNode) = .ok ((ss.map Segment.clause).map Part.clause) := by
  rw [List.map_map]
  exact transformAll_map transform_toNode ss

/-- The tree of segments always becomes the list of their clauses. -/
theorem transform_treeOf (ss : List Segment) :
    transform (treeOf ss) = .ok (.list ((ss.map Segment.clause).map Part.clause)) :=
  transform_branch (transformAll_toNode ss)

theorem clauses_of_spells {text : Text} {ss : List Segment} (h : Spells text ss) :
    clauses text = .ok (ss.map Segment.clause) := by
  rw [clauses, parse_of_segments (segments_of_spells h)]
  change (transform (treeOf ss) >>= fun part => pure part.clauses) = _
  rw [transform_treeOf]
  exact congrArg Except.ok (Part.clauses_list_map _)

theorem clauses_eq_ok {text : Text} {cs : List Clause} :
    clauses text = .ok cs ↔ ∃ ss, Spells text ss ∧ cs = ss.map Segment.clause := by
  constructor
  · intro h
    cases hp : parse text with
    | error r =>
      rw [clauses, hp] at h
      cases h
    | ok tree =>
      obtain ⟨ss, hss, -⟩ := parse_eq_ok.1 hp
      rw [clauses_of_spells hss] at h
      cases h
      exact ⟨ss, hss, rfl⟩
  · rintro ⟨ss, hss, rfl⟩
    exact clauses_of_spells hss

/-- Some tree is the tree of the text. -/
def Accepted (text : Text) : Prop := ∃ tree, parse text = .ok tree

theorem accepted_iff_spells {text : Text} : Accepted text ↔ ∃ ss, Spells text ss := by
  constructor
  · rintro ⟨tree, h⟩
    obtain ⟨ss, hss, -⟩ := parse_eq_ok.1 h
    exact ⟨ss, hss⟩
  · rintro ⟨ss, hss⟩
    exact ⟨treeOf ss, parse_eq_ok.2 ⟨ss, hss, rfl⟩⟩

theorem accepted_iff_clauses {text : Text} : Accepted text ↔ ∃ cs, clauses text = .ok cs := by
  rw [accepted_iff_spells]
  constructor
  · rintro ⟨ss, hss⟩
    exact ⟨_, clauses_of_spells hss⟩
  · rintro ⟨cs, hcs⟩
    obtain ⟨ss, hss, -⟩ := clauses_eq_ok.1 hcs
    exact ⟨ss, hss⟩

end Grammar
end SearchQuery
