import SearchQuery.Grammar.Segment
import SearchQuery.Grammar.Tree
import SearchQuery.Query.Error

/-!
# From texts to clauses

A text is read into a tree: the root `start` has one branch `clause` for every segment, with a
place for the operator and a `term` or `phrase` below. A tree is read from the leaves up and from
left to right, and the first failure is the failure of the whole.
-/

namespace SearchQuery
namespace Grammar

def startLabel : Text := "start"
def clauseLabel : Text := "clause"
def termLabel : Text := "term"
def phraseLabel : Text := "phrase"

def Sign.toNode (sign : Sign) : Node := .token "OPERATOR" [sign.char]

def Written.toNode : Written → Node
  | .term text => .branch termLabel [.token "TERM" text]
  | .phrase words => .branch phraseLabel (words.map (.token "PHRASE_WORD" ·))

def Segment.toNode (s : Segment) : Node :=
  .branch clauseLabel [(s.sign.map Sign.toNode).getD .absent, s.written.toNode]

def treeOf (segments : List Segment) : Node :=
  .branch startLabel (segments.map Segment.toNode)

def parse (text : Text) : Except Rejection Node :=
  match segments text with
  | .ok segments => .ok (treeOf segments)
  | .error offset => .error (Rejection.explain text (some (Int.ofNat offset)))

/-- The role that an operator symbol gives; null stands for no symbol. -/
def roleOfSymbol (symbol : Scalar) : Except QueryError Role :=
  if symbol = .null then .ok .optional
  else if symbol = .text "+" then .ok .required
  else if symbol = .text "-" then .ok .excluded
  else .error (.unknownOperator (.scalar symbol))

/-- The symbol in the operator place of a clause. -/
def symbolOf : Part → Scalar
  | .absent => .null
  | p => .text p.spelling

/-- The body below a clause: a term takes its first child, a phrase joins all its children with
single spaces. -/
def bodyOf : Part → Except QueryError Body
  | .branch label children =>
    if label = termLabel then
      match children with
      | [] => .error .emptyTerm
      | first :: _ => .ok (.term first.spelling)
    else if label = phraseLabel then
      .ok (.phrase (Text.joinWith " " (children.map Part.spelling)))
    else .error (.unknownBody (.branch label children))
  | _ => .error .bodyWithoutLabel

/-- The clause with the given children. The operator is settled before the body. -/
def clauseOf : List Part → Except QueryError Clause
  | [operator, body] => do
    let role ← roleOfSymbol (symbolOf operator)
    let body ← bodyOf body
    return ⟨role, body⟩
  | _ => .error .misshapenClause

/-- What a label makes of parts. -/
def assemble (label : Text) (parts : List Part) (otherwise : Part) : Except QueryError Part :=
  if label = startLabel then .ok (.list parts)
  else if label = clauseLabel then (clauseOf parts).map .clause
  else .ok otherwise

mutual

/-- Reads a tree, the children of a branch before the branch itself. The kind of a token counts as
its label. -/
def transform : Node → Except QueryError Part
  | .token kind text => assemble kind [.token kind text] (.token kind text)
  | .branch label children => do
    let parts ← transformAll children
    assemble label parts (.branch label parts)
  | .absent => return .absent

def transformAll : List Node → Except QueryError (List Part)
  | [] => return []
  | n :: rest => do
    let part ← transform n
    let parts ← transformAll rest
    return part :: parts

end

def clauses (text : Text) : Except QueryError (List Clause) := do
  let tree ← (parse text).mapError .rejected
  let part ← transform tree
  return part.clauses

end Grammar
end SearchQuery
