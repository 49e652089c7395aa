import SearchQuery.Yaml.Cursor

/-!
# The text of scalars

How scalars are written: between quotes, as a block of indented lines, or plainly. A single line
break inside a quoted or plain scalar reads as a space, and of several the first is dropped.
-/

namespace SearchQuery
namespace Yaml

/-- A line break that is folded: it becomes a space if no break follows, and is dropped otherwise;
a Unicode separator is kept. -/
def fold (lineBreak : Char) (breaks : Text) : Text :=
  if lineBreak ≠ '\n' then lineBreak :: breaks
  else if breaks.isEmpty then [' ']
  else breaks

def hexValue? (c : Char) : Option Nat :=
  if '0' ≤ c ∧ c ≤ '9' then some (c.toNat - '0'.toNat)
  else if 'a' ≤ c ∧ c ≤ 'f' then some (c.toNat - 'a'.toNat + 10)
  else if 'A' ≤ c ∧ c ≤ 'F' then some (c.toNat - 'A'.toNat + 10)
  else none

/-- The number that `n` hexadecimal digits at the start of a text spell. -/
def hexNumber? (n : Nat) (t : Text) : Option Nat :=
  if t.length < n then none
  else (t.take n).foldlM (fun value c => (hexValue? c).map fun d => 16 * value + d) 0

namespace Cursor

/-! ## Quoted scalars -/

/-- Skips blanks and line breaks inside a quoted scalar; gives the breaks. -/
def quotedBreaks (c : Cursor) : Nat → Except Fault (Text × Cursor)
  | 0 => .error .malformed
  | fuel + 1 =>
    if c.atSeparator then .error .malformed
    else
      let c := c.skip isSpaceOrTab
      match c.lineBreak? with
      | none => .ok ([], c)
      | some (b, next) => do
        let (breaks, stop) ← quotedBreaks next fuel
        return (b :: breaks, stop)

/-- What a letter after a backslash stands for. -/
def escaped? (c : Char) : Option Char :=
  [('0', '\x00'), ('a', '\x07'), ('b', '\x08'), ('t', '\t'), ('\t', '\t'), ('n', '\n'),
    ('v', '\x0b'), ('f', '\x0c'), ('r', '\r'), ('e', '\x1b'), (' ', ' '), ('"', '"'),
    ('\\', '\\'), ('/', '/'), ('N', '\x85'), ('_', '\xa0'), ('L', '\u2028'),
    ('P', '\u2029')].lookup c

/-- How many hexadecimal digits follow a letter after a backslash. -/
def escapeWidth? (c : Char) : Option Nat := [('x', 2), ('u', 4), ('U', 8)].lookup c

/-- The number of an escape of `width` hexadecimal digits; the place is that of its letter. -/
def escapedNumber? (width : Nat) (c : Cursor) : Option (Nat × Cursor) :=
  (hexNumber? width c.step.rest).map fun n => (n, advance width c.step)

/-- The second half of a character that is spelled as two numbers, when an escape of it is next. -/
def secondHalf? (c : Cursor) : Option (Nat × Cursor) := do
  guard (c.peek = some '\\')
  let width ← escapeWidth? (← c.peekAt 1)
  let (n, stop) ← escapedNumber? width c.step
  guard (0xDC00 ≤ n ∧ n < 0xE000)
  return (n, stop)

/-- The character with a number, from the place after its escape. The first half of a surrogate pair
takes a second half with it; a lone half gives the null character. -/
def escapedChar (n : Nat) (c : Cursor) : Except Fault (Text × Cursor) :=
  if 0x110000 ≤ n then .error (if n < 0x80000000 then .invalidScalar else .tooLarge)
  else
    match if 0xD800 ≤ n ∧ n < 0xDC00 then secondHalf? c else none with
    | some (second, stop) =>
      .ok ([Char.ofNat (0x10000 + (n - 0xD800) * 0x400 + (second - 0xDC00))], stop)
    | none => .ok ([Char.ofNat n], c)

/-- What an escape stands for; the place is that after the backslash. -/
def escapeText (c : Cursor) : Except Fault (Text × Cursor) :=
  match c.peek with
  | none => .error .malformed
  | some ch =>
    match escaped? ch, escapeWidth? ch with
    | some r, _ => .ok ([r], c.step)
    | none, some width =>
      match escapedNumber? width c with
      | some (n, next) => escapedChar n next
      | none => .error .malformed
    | none, none =>
      match c.lineBreak? with
      | some (_, next) => quotedBreaks next (next.rest.length + 1)
      | none => .error .malformed

/-- The text of a scalar between double quotes, from the place after the first. -/
def doubleQuoted (c : Cursor) : Nat → Except Fault (Text × Cursor)
  | 0 => .error .malformed
  | fuel + 1 =>
    match c.peek with
    | none => .error .malformed
    | some '"' => .ok ([], c.step)
    | some '\\' => do
      let (chars, next) ← escapeText c.step
      let (text, stop) ← doubleQuoted next fuel
      return (chars ++ text, stop)
    | some ch =>
      if isSpaceOrTab ch || isBreak ch then do
        let (blanks, next) := c.span isSpaceOrTab
        match next.lineBreak? with
        | some (b, after) =>
          let (breaks, next) ← quotedBreaks after (after.rest.length + 1)
          let (text, stop) ← doubleQuoted next fuel
          return (fold b breaks ++ text, stop)
        | none =>
          let (text, stop) ← doubleQuoted next fuel
          return (blanks ++ text, stop)
      else do
        let (text, stop) ← doubleQuoted c.step fuel
        return (ch :: text, stop)

/-- The text of a scalar between apostrophes, from the place after the first. Two apostrophes stand
for one. -/
def singleQuoted (c : Cursor) : Nat → Except Fault (Text × Cursor)
  | 0 => .error .malformed
  | fuel + 1 =>
    match c.peek with
    | none => .error .malformed
    | some '\x27' =>
      if c.peekAt 1 = some '\x27' then do
        let (text, stop) ← singleQuoted (advance 2 c) fuel
        return ('\x27' :: text, stop)
      else .ok ([], c.step)
    | some ch =>
      if isSpaceOrTab ch || isBreak ch then do
        let (blanks, next) := c.span isSpaceOrTab
        match next.lineBreak? with
        | some (b, after) =>
          let (breaks, next) ← quotedBreaks after (after.rest.length + 1)
          let (text, stop) ← singleQuoted next fuel
          return (fold b breaks ++ text, stop)
        | none =>
          let (text, stop) ← singleQuoted next fuel
          return (blanks ++ text, stop)
      else do
        let (text, stop) ← singleQuoted c.step fuel
        return (ch :: text, stop)

/-! ## Block scalars -/

/-- What becomes of the line breaks at the end of a block. -/
inductive Chomping where
  | strip
  | clip
  | keep
  deriving DecidableEq, Repr

def chomping? : Option Char → Option Chomping
  | some '+' => some .keep
  | some '-' => some .strip
  | _ => none

/-- A digit that says how far a block is indented. -/
def increment? (c : Option Char) : Option Nat :=
  match c with
  | some ch => if ch.isDigit then some (ch.toNat - '0'.toNat) else none
  | none => none

/-- The signs after the mark of a block: chomping and indentation in either order. -/
def blockSigns (c : Cursor) : Except Fault (Chomping × Option Nat × Cursor) := do
  let (chomping, increment, c) :=
    match chomping? c.peek with
    | some chomping =>
      match increment? c.step.peek with
      | some n => (chomping, some n, advance 2 c)
      | none => (chomping, none, c.step)
    | none =>
      match increment? c.peek with
      | some n =>
        match chomping? c.step.peek with
        | some chomping => (chomping, some n, advance 2 c)
        | none => (.clip, some n, c.step)
      | none => (.clip, none, c)
  if increment = some 0 || !endsSpaced c.peek then throw .malformed
  else return (chomping, increment, c)

def skipTo (column : Nat) (c : Cursor) : Cursor :=
  let spaces := (c.rest.takeWhile (· = ' ')).length
  advance (min spaces (column - c.column)) c

/-- Skips empty lines and the indentation of the next one; gives the breaks. -/
def blockBreaks (indent : Nat) (c : Cursor) : Nat → Text × Cursor
  | 0 => ([], c)
  | fuel + 1 =>
    let c := c.skipTo indent
    match c.lineBreak? with
    | none => ([], c)
    | some (b, next) =>
      let (breaks, stop) := blockBreaks indent next fuel
      (b :: breaks, stop)

/-- Skips spaces and empty lines at the start of a block; gives the breaks and the greatest column
that was reached by spaces. -/
def blockLead (c : Cursor) (widest : Nat) : Nat → Text × Nat × Cursor
  | 0 => ([], widest, c)
  | fuel + 1 =>
    let spaced := c.skipSpaces
    let widest := max widest (if spaced.index = c.index then 0 else spaced.column)
    match spaced.lineBreak? with
    | none => ([], widest, spaced)
    | some (b, next) =>
      let (breaks, widest, stop) := blockLead next widest fuel
      (b :: breaks, widest, stop)

/-- The lines of a block at a given indentation. `breaks` are the empty lines before the first. The
result holds the text without the end, the last break and the empty lines after it. -/
def blockLines (folded : Bool) (indent : Nat) (c : Cursor) (breaks : Text) :
    Nat → Text × Text × Text × Cursor
  | 0 => ([], [], breaks, c)
  | fuel + 1 =>
    if c.column ≠ indent || c.rest.isEmpty then ([], [], breaks, c)
    else
      let flush := !c.peek.any isSpaceOrTab
      let (line, next) := c.span fun ch => !isBreak ch
      let (lineBreak, next) :=
        match next.lineBreak? with
        | some (b, next) => ([b], next)
        | none => ([], next)
      let (after, next) := blockBreaks indent next (next.rest.length + 1)
      if next.column ≠ indent || next.rest.isEmpty then (breaks ++ line, lineBreak, after, next)
      else
        let joint :=
          if folded && lineBreak = ['\n'] && flush && !next.peek.any isSpaceOrTab then
            if after.isEmpty then [' '] else []
          else lineBreak
        let (text, last, tail, stop) := blockLines folded indent next after fuel
        (breaks ++ line ++ joint ++ text, last, tail, stop)

/-- The text of a block scalar inside a collection of the given indentation, from the place after
its mark. -/
def blockScalar (folded : Bool) (parent : Int) (c : Cursor) : Except Fault (Text × Cursor) := do
  let (chomping, increment, c) ← c.blockSigns
  let c ← c.finishLine
  let least := (max (parent + 1) 1).toNat
  let fuel := c.rest.length + 1
  let (indent, breaks, start) :=
    match increment with
    | some n =>
      let indent := least + n - 1
      let (breaks, start) := blockBreaks indent c fuel
      (indent, breaks, start)
    | none =>
      let (breaks, widest, start) := c.blockLead 0 fuel
      (max least widest, breaks, start)
  let (text, last, tail, stop) := blockLines folded indent start breaks fuel
  let text := match chomping with
    | .strip => text
    | .clip => text ++ last
    | .keep => text ++ last ++ tail
  return (text, stop)

/-! ## Plain scalars -/

/-- Characters that end a plain scalar between brackets. -/
def isFlowSign (c : Char) : Bool := c = ',' || c = '[' || c = ']' || c = '\x7b' || c = '\x7d'

/-- Whether a plain scalar goes on with the first character of a text. -/
def plainContinues (flow : Bool) (t : Text) : Bool :=
  match t with
  | [] => false
  | ch :: rest =>
    !(isSpaceOrTab ch || isBreak ch) &&
      !(ch = ':' && (endsWord rest.head? || flow && rest.head?.any isFlowSign)) &&
      !(flow && (isFlowSign ch || ch = '?'))

/-- The length of the next part of a plain scalar, which has no blanks. -/
def plainLength (flow : Bool) : Text → Nat
  | [] => 0
  | ch :: rest => if plainContinues flow (ch :: rest) then plainLength flow rest + 1 else 0

/-- What separates two parts of a plain scalar. -/
inductive PlainGap where
  /-- The scalar cannot go on. -/
  | closed
  /-- Blanks on one line, or a break with what it reads as. -/
  | spaces (text : Text)
  | broken (text : Text)

/-- Skips spaces and line breaks inside a plain scalar; gives the breaks, or nothing when a
separator of documents starts a line. -/
def plainBreaks (c : Cursor) : Nat → Option Text × Cursor
  | 0 => (none, c)
  | fuel + 1 =>
    if c.atSeparator then (none, c)
    else
      let c := c.skipSpaces
      match c.lineBreak? with
      | none => (some [], c)
      | some (b, next) =>
        let (breaks, stop) := plainBreaks next fuel
        (breaks.map (b :: ·), stop)

def plainGap (c : Cursor) : PlainGap × Cursor :=
  let (spaces, next) := c.span (· = ' ')
  match next.lineBreak? with
  | none => (.spaces spaces, next)
  | some (b, after) =>
    match plainBreaks after (after.rest.length + 1) with
    | (none, stop) => (.closed, stop)
    | (some breaks, stop) => (.broken (fold b breaks), stop)

/-- A plain scalar inside a collection of the given indentation: its text, whether the place after
it is on a new line, and that place. -/
def plainScalar (flow : Bool) (parent : Int) (c : Cursor) (gap : Text) : Nat → Text × Bool × Cursor
  | 0 => ([], false, c)
  | fuel + 1 =>
    let length := if c.peek = some '#' then 0 else plainLength flow c.rest
    let part := gap ++ c.rest.take length
    match plainGap (advance length c) with
    | (.closed, stop) => (part, true, stop)
    | (.spaces spaces, stop) =>
      if spaces.isEmpty || stop.peek = some '#' || plainLength flow stop.rest = 0 then
        (part, false, stop)
      else
        let (text, newLine, stop) := plainScalar flow parent stop spaces fuel
        (part ++ text, newLine, stop)
    | (.broken text, stop) =>
      if stop.peek = some '#' || (!flow && (stop.column : Int) < parent + 1) ||
          plainLength flow stop.rest = 0 then
        (part, true, stop)
      else
        let (more, newLine, stop) := plainScalar flow parent stop text fuel
        (part ++ more, newLine, stop)

end Cursor
end Yaml
end SearchQuery
