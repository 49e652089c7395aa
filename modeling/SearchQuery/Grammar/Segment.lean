import SearchQuery.Text.Blank

/-!
# Segments of a query text

A query text is a sequence of segments, with blanks between them or not. A segment is an operator
symbol or nothing, directly followed by a term or by a phrase between double quotes. A term goes
on to the next blank or quote; it may hold operator symbols but not start with one. Inside the
quotes only blanks and quotes are special. The scan reads one character at a time, so that the
scan of two texts in a row is the scan of the second from the state that the first leaves.
-/

namespace SearchQuery
namespace Grammar

/-- An operator symbol. -/
inductive Sign where
  | plus
  | minus
  deriving DecidableEq, Repr

namespace Sign

def char : Sign → Char
  | .plus => '+'
  | .minus => '-'

def ofChar? (c : Char) : Option Sign :=
  if c = '+' then some .plus else if c = '-' then some .minus else none

theorem ofChar?_eq_some_iff {c : Char} {s : Sign} : ofChar? c = some s ↔ c = s.char := by
  unfold ofChar?
  cases s <;> grind [char]

end Sign

/-- What a segment asks for, as it is written: a term, or the words of a phrase. -/
inductive Written where
  | term (text : Text)
  | phrase (words : List Text)
  deriving DecidableEq, Repr

structure Segment where
  sign : Option Sign
  written : Written
  deriving DecidableEq, Repr

/-- What has been begun and not finished. Characters and words are kept last first. -/
inductive Partial where
  | gap
  | signed (sign : Sign)
  | inTerm (sign : Option Sign) (chars : Text)
  | inPhrase (sign : Option Sign) (words : List Text) (chars : Text)
  deriving DecidableEq, Repr

/-- A scan in progress: how many characters have been read, the finished segments, last first, and
what has been begun since. -/
structure Scan where
  offset : Nat
  finished : List Segment
  begun : Partial
  deriving DecidableEq, Repr

namespace Scan

def start : Scan := ⟨0, [], .gap⟩

def closeTerm (sign : Option Sign) (chars : Text) : Segment := ⟨sign, .term chars.reverse⟩

/-- The words of a phrase when its last word may still be open. -/
def closeWord (words : List Text) (chars : Text) : List Text :=
  if chars.isEmpty then words else chars.reverse :: words

/-- What a character begins that stands neither in a term nor in a phrase, after a sign or not. -/
def openWith (sign : Option Sign) (c : Char) : Partial :=
  if c = '"' then .inPhrase sign [] [] else .inTerm sign [c]

/-- Reads one character. The only failure is a sign that is followed by a blank or by another sign;
it is reported at the offset of the second character. -/
def step (s : Scan) (c : Char) : Except Nat Scan :=
  let next := s.offset + 1
  match s.begun with
  | .gap =>
    if Text.isBlank c then .ok ⟨next, s.finished, .gap⟩
    else
      match Sign.ofChar? c with
      | some sign => .ok ⟨next, s.finished, .signed sign⟩
      | none => .ok ⟨next, s.finished, openWith none c⟩
  | .signed sign =>
    if Text.isBlank c || (Sign.ofChar? c).isSome then .error s.offset
    else .ok ⟨next, s.finished, openWith (some sign) c⟩
  | .inTerm sign chars =>
    if Text.isBlank c then .ok ⟨next, closeTerm sign chars :: s.finished, .gap⟩
    else if c = '"' then .ok ⟨next, closeTerm sign chars :: s.finished, .inPhrase none [] []⟩
    else .ok ⟨next, s.finished, .inTerm sign (c :: chars)⟩
  | .inPhrase sign words chars =>
    if c = '"' then
      .ok ⟨next, ⟨sign, .phrase (closeWord words chars).reverse⟩ :: s.finished, .gap⟩
    else if Text.isBlank c then .ok ⟨next, s.finished, .inPhrase sign (closeWord words chars) []⟩
    else .ok ⟨next, s.finished, .inPhrase sign words (c :: chars)⟩

/-- The segments at the end of the text. A sign at the end is reported at its own offset, an open
phrase at the end of the text. -/
def finish (s : Scan) : Except Nat (List Segment) :=
  match s.begun with
  | .gap => .ok s.finished.reverse
  | .signed _ => .error (s.offset - 1)
  | .inTerm sign chars => .ok (closeTerm sign chars :: s.finished).reverse
  | .inPhrase _ _ _ => .error s.offset

def run (s : Scan) (text : Text) : Except Nat Scan := text.foldlM step s

theorem run_append (s : Scan) (a b : Text) : s.run (a ++ b) = (s.run a).bind fun t => t.run b := by
  simp only [run, List.foldlM_append]
  rfl

theorem offset_step {s t : Scan} {c : Char} (h : s.step c = .ok t) : t.offset = s.offset + 1 := by
  grind [step]

theorem offset_run {s t : Scan} {text : Text} (h : s.run text = .ok t) :
    t.offset = s.offset + text.length := by
  induction text generalizing s with
  | nil => cases h; rfl
  | cons c rest ih =>
    rw [run, List.foldlM_cons] at h
    cases hs : s.step c with
    | error e => rw [hs] at h; cases h
    | ok u =>
      rw [hs] at h
      rw [ih h, offset_step hs, List.length_cons]
      omega

end Scan

/-- The segments of a text, or the offset at which reading stopped. -/
def segments (text : Text) : Except Nat (List Segment) :=
  (Scan.start.run text).bind Scan.finish

end Grammar
end SearchQuery
