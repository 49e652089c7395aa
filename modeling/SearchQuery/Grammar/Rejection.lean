import SearchQuery.Text.Quoted

/-!
# Rejected texts

Why a text is no query and at which character. The place is found after the fact: a quote without
a partner explains everything; otherwise the operator at or just before the character where
reading stopped is to blame.
-/

namespace SearchQuery

inductive Reason where
  | unterminatedQuote
  | looseOperator (symbol : Char)
  | unexpectedInput
  | other (description : Text)
  deriving DecidableEq, Repr

namespace Reason

def description : Reason → Text
  | .unterminatedQuote => "unterminated quote"
  | .looseOperator symbol =>
    "operator " ++ Text.quoted [symbol] ++ " must be directly followed by a term or phrase"
  | .unexpectedInput => "unexpected input"
  | .other description => description

end Reason

/-- A text that is no query, the reason and, if known, the offset of the character to blame. -/
structure Rejection where
  text : Text
  reason : Reason
  position : Option Int
  deriving DecidableEq, Repr

namespace Rejection

/-- How many characters are shown on either side of the position. -/
def reach : Int := 10

/-- The part of the text around the position, or all of it. -/
def fragment (r : Rejection) : Text :=
  match r.position with
  | none => r.text
  | some p => r.text.slice (max 0 (p - reach)) (p + reach)

def message (r : Rejection) : Text :=
  match r.position with
  | none => "Invalid query: " ++ r.reason.description
  | some p =>
    "Invalid query: " ++ r.reason.description ++ " at position " ++ Text.ofInt p ++ " (near " ++
      r.fragment.quoted ++ ")"

/-- The character of the text at an offset, if it is an operator symbol. -/
def operatorAt? (text : Text) (offset : Int) : Option Char :=
  if offset < 0 then none
  else text[offset.toNat]?.filter fun c => c = '+' || c = '-'

/-- The rejection of a text in which reading stopped at an offset. Without a usable offset reading
stopped at the end of the text. -/
def explain (text : Text) (stop : Option Int) : Rejection :=
  if text.count '"' % 2 = 1 then
    ⟨text, .unterminatedQuote, (text.lastIndexOf? '"').map Int.ofNat⟩
  else
    let stop : Int :=
      match stop with
      | some p => if p < 0 then text.length else p
      | none => text.length
    match operatorAt? text (stop - 1), operatorAt? text stop with
    | some c, _ => ⟨text, .looseOperator c, some (stop - 1)⟩
    | none, some c => ⟨text, .looseOperator c, some stop⟩
    | none, none => ⟨text, .unexpectedInput, some stop⟩

end Rejection
end SearchQuery
