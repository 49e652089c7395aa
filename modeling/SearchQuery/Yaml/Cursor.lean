import SearchQuery.Text.Basic

/-!
# Places in a YAML text

A cursor is what is left of a text together with the line and the column it starts at. Five
characters end a line; a carriage return and the line feed after it end one line together.
-/

namespace SearchQuery
namespace Yaml

/-- Why a text says nothing. All but the first two concern single scalars; `tooDeep` is also the
fault of what has no end. -/
inductive Fault where
  | malformed
  | tooDeep
  | unknownWord
  | invalidScalar
  | tooLarge
  | emptyNumber
  | notAText
  | notATimestamp
  deriving DecidableEq, Repr

namespace Fault

def message : Fault → Text
  | .malformed => "malformed document"
  | .tooDeep => "document nested too deeply"
  | .unknownWord => "unknown truth value"
  | .invalidScalar => "invalid scalar"
  | .tooLarge => "number too large"
  | .emptyNumber => "empty number"
  | .notAText => "timestamp without a text"
  | .notATimestamp => "invalid timestamp"

end Fault

/-- The most digits of a decimal integer. -/
def mostDecimalDigits : Nat := 4300

def isBreak (c : Char) : Bool :=
  c = '\n' || c = '\r' || c = '\x85' || c = '\u2028' || c = '\u2029'

def isSpaceOrTab (c : Char) : Bool := c = ' ' || c = '\t'

/-- A blank, a break or the end of the text. -/
def endsWord (c : Option Char) : Bool := c.all fun c => isSpaceOrTab c || isBreak c

/-- A space, a break or the end of the text. -/
def endsSpaced (c : Option Char) : Bool := c.all fun c => c = ' ' || isBreak c

/-- Letters, digits, the hyphen and the underscore. -/
def isNameChar (c : Char) : Bool := c.isAlphanum || c = '-' || c = '_'

structure Cursor where
  rest : Text
  index : Nat
  line : Nat
  column : Nat

namespace Cursor

def ofText (t : Text) : Cursor := ⟨t, 0, 0, 0⟩

def peek (c : Cursor) : Option Char := c.rest.head?

def peekAt (c : Cursor) (n : Nat) : Option Char := c.rest[n]?

def startsWith (c : Cursor) (t : Text) : Bool := t.isPrefixOf c.rest

/-- The place after one more character. A byte order mark takes no column. -/
def step (c : Cursor) : Cursor :=
  match c.rest with
  | [] => c
  | ch :: rest =>
    if isBreak ch && !(ch = '\r' && rest.head? = some '\n') then ⟨rest, c.index + 1, c.line + 1, 0⟩
    else ⟨rest, c.index + 1, c.line, if ch = '\ufeff' then c.column else c.column + 1⟩

def advance : Nat → Cursor → Cursor
  | 0, c => c
  | n + 1, c => advance n c.step

/-- The characters up to the first that fails a test, and the place of that one. -/
def span (p : Char → Bool) (c : Cursor) : Text × Cursor :=
  let taken := c.rest.takeWhile p
  (taken, advance taken.length c)

def skip (p : Char → Bool) (c : Cursor) : Cursor := (c.span p).2

def skipSpaces (c : Cursor) : Cursor := c.skip (· = ' ')

/-- Skips the rest of the line, up to its break. -/
def skipLine (c : Cursor) : Cursor := c.skip fun ch => !isBreak ch

/-- The break at this place, if there is one. All but the two Unicode separators read as a line
feed. -/
def lineBreak? (c : Cursor) : Option (Char × Cursor) :=
  match c.rest with
  | '\r' :: '\n' :: _ => some ('\n', advance 2 c)
  | ch :: _ =>
    if ch = '\n' || ch = '\r' || ch = '\x85' then some ('\n', c.step)
    else if ch = '\u2028' || ch = '\u2029' then some (ch, c.step)
    else none
  | [] => none

/-- Whether a line starts here that separates documents. -/
def atSeparator (c : Cursor) : Bool :=
  (c.startsWith "---" || c.startsWith "...") && endsWord (c.peekAt 3)

/-- Skips spaces and a comment; only the end of the line may follow. -/
def finishLine (c : Cursor) : Except Fault Cursor :=
  let c := c.skipSpaces
  let c := if c.peek = some '#' then c.skipLine else c
  match c.lineBreak? with
  | some (_, next) => .ok next
  | none => if c.rest.isEmpty then .ok c else .error .malformed

end Cursor
end Yaml
end SearchQuery
