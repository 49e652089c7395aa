import SearchQuery.Yaml.Token

/-!
# From texts to tokens

The tokens of a text in order. A token that may turn out to be a key is remembered, one for each
level of brackets; when the colon follows on the same line and within 1024 characters, the mark
of a key is put in front of it. Outside brackets the columns of lines open and close blocks. A fault
counts only for those who ask for the tokens behind it.
-/

namespace SearchQuery
namespace Yaml

/-- A token that may be a key: how many tokens stand before it, whether it has to be a key, and
where it starts. -/
structure KeyCandidate where
  number : Nat
  required : Bool
  index : Nat
  line : Nat
  column : Nat

/-- Tokens in order, and the fault that is met when more of them are asked for, if there is one. -/
structure TokenStream where
  tokens : List Token
  fault : Option Fault

/-- The tokens so far, last first, and what the next one depends on. -/
structure Tokenizing where
  place : Cursor
  tokens : List Token
  count : Nat
  depth : Nat
  indent : Int
  indents : List Int
  keyAllowed : Bool
  candidates : List (Nat × KeyCandidate)
  finished : Bool

namespace Tokenizing

def start (t : Text) : Tokenizing where
  place := Cursor.ofText t
  tokens := []
  count := 0
  depth := 0
  indent := -1
  indents := []
  keyAllowed := true
  candidates := []
  finished := false

def push (t : Token) (s : Tokenizing) : Tokenizing :=
  { s with tokens := t :: s.tokens, count := s.count + 1 }

/-- Puts a token in front of the one with `number` tokens before it. -/
def insertAt (number : Nat) (t : Token) (s : Tokenizing) : Tokenizing :=
  let after := s.count - number
  { s with tokens := s.tokens.take after ++ t :: s.tokens.drop after, count := s.count + 1 }

def moveTo (place : Cursor) (s : Tokenizing) : Tokenizing := { s with place }

def inBlock (s : Tokenizing) : Bool := s.depth == 0

/-- The candidate at the current level of brackets. -/
def candidate? (s : Tokenizing) : Option KeyCandidate := s.candidates.lookup s.depth

def withoutCandidate (s : Tokenizing) : Tokenizing :=
  { s with candidates := s.candidates.filter fun entry => entry.1 != s.depth }

def dropCandidate (s : Tokenizing) : Except Fault Tokenizing :=
  match s.candidate? with
  | some key => if key.required then .error .malformed else .ok s.withoutCandidate
  | none => .ok s

/-- Whether a candidate can still become a key at the current place. -/
def isFresh (s : Tokenizing) (key : KeyCandidate) : Bool :=
  key.line == s.place.line && s.place.index - key.index ≤ 1024

/-- Gives up all candidates that are too far away. -/
def dropStale (s : Tokenizing) : Except Fault Tokenizing :=
  if s.candidates.any fun entry => entry.2.required && !s.isFresh entry.2 then .error .malformed
  else .ok { s with candidates := s.candidates.filter fun entry => s.isFresh entry.2 }

/-- Remembers the next token as a candidate, where keys may stand. -/
def remember (s : Tokenizing) : Except Fault Tokenizing :=
  if s.keyAllowed then do
    let key : KeyCandidate :=
      { number := s.count
        required := s.inBlock && s.indent == s.place.column
        index := s.place.index
        line := s.place.line
        column := s.place.column }
    let s ← s.dropCandidate
    return { s with candidates := (s.depth, key) :: s.candidates }
  else return s

/-- Closes the blocks that are indented more than a column. -/
def closeBlocks (column : Int) (s : Tokenizing) : List Int → Tokenizing
  | [] => s
  | outer :: rest =>
    if column < s.indent then
      closeBlocks column { s.push .blockEnd with indent := outer, indents := rest } rest
    else s

def unwind (column : Int) (s : Tokenizing) : Tokenizing :=
  if s.inBlock then closeBlocks column s s.indents else s

/-- Whether a block may begin at a column. -/
def isDeeper (s : Tokenizing) (column : Nat) : Bool := s.indent < column

def indentTo (column : Nat) (s : Tokenizing) : Tokenizing :=
  { s with indents := s.indent :: s.indents, indent := column }

/-- Begins a block at the current column, if it is indented more than the one around it. -/
def openBlock (t : Token) (s : Tokenizing) : Tokenizing :=
  if s.isDeeper s.place.column then (s.indentTo s.place.column).push t else s

def allowKey (allowed : Bool) (s : Tokenizing) : Tokenizing := { s with keyAllowed := allowed }

/-- Adds a token of `width` characters. -/
def take (width : Nat) (t : Token) (s : Tokenizing) : Tokenizing :=
  (s.push t).moveTo (Cursor.advance width s.place)

/-- Skips blanks, comments and line breaks. Outside brackets keys may stand on a new line. -/
def skipToToken (s : Tokenizing) : Nat → Tokenizing
  | 0 => s
  | fuel + 1 =>
    let c := s.place.skipSpaces
    let c := if c.peek = some '#' then c.skipLine else c
    match c.lineBreak? with
    | some (_, next) => skipToToken ((s.moveTo next).allowKey (s.keyAllowed || s.inBlock)) fuel
    | none => s.moveTo c

def finish (s : Tokenizing) : Except Fault Tokenizing := do
  let s ← (s.unwind (-1)).dropCandidate
  return { s.push .streamEnd with keyAllowed := false, candidates := [], finished := true }

def takeDirective (s : Tokenizing) : Except Fault Tokenizing := do
  let s ← (s.unwind (-1)).dropCandidate
  let (t, next) ← s.place.directive
  return ((s.push t).moveTo next).allowKey false

def takeSeparator (t : Token) (s : Tokenizing) : Except Fault Tokenizing := do
  let s ← (s.unwind (-1)).dropCandidate
  return (s.take 3 t).allowKey false

def takeOpening (t : Token) (s : Tokenizing) : Except Fault Tokenizing := do
  let s ← s.remember
  return ({ s with depth := s.depth + 1 }.take 1 t).allowKey true

def takeClosing (t : Token) (s : Tokenizing) : Except Fault Tokenizing := do
  let s ← s.dropCandidate
  return ({ s with depth := s.depth - 1 }.take 1 t).allowKey false

def takeFlowEntry (s : Tokenizing) : Except Fault Tokenizing := do
  let s ← s.dropCandidate
  return (s.take 1 .flowEntry).allowKey true

def takeBlockEntry (s : Tokenizing) : Except Fault Tokenizing := do
  if s.inBlock && !s.keyAllowed then throw .malformed
  else
    let s := if s.inBlock then s.openBlock .blockSequenceStart else s
    let s ← s.dropCandidate
    return (s.take 1 .blockEntry).allowKey true

def takeKey (s : Tokenizing) : Except Fault Tokenizing := do
  if s.inBlock && !s.keyAllowed then throw .malformed
  else
    let s := if s.inBlock then s.openBlock .blockMappingStart else s
    let s ← s.dropCandidate
    return (s.take 1 .key).allowKey s.inBlock

/-- A colon: it makes the candidate a key, or else belongs to a key with a mark of its own. -/
def takeValue (s : Tokenizing) : Except Fault Tokenizing := do
  match s.candidate? with
  | some key =>
    let s := s.withoutCandidate.insertAt key.number .key
    let s :=
      if s.inBlock && s.isDeeper key.column then
        (s.indentTo key.column).insertAt key.number .blockMappingStart
      else s
    return (s.take 1 .value).allowKey false
  | none =>
    if s.inBlock && !s.keyAllowed then throw .malformed
    else
      let s := if s.inBlock then s.openBlock .blockMappingStart else s
      let s ← s.dropCandidate
      return (s.take 1 .value).allowKey s.inBlock

def takeAnchor (t : Text → Token) (s : Tokenizing) : Except Fault Tokenizing := do
  let s ← s.remember
  let (name, next) ← s.place.step.anchorName
  return ((s.push (t name)).moveTo next).allowKey false

def takeTag (s : Tokenizing) : Except Fault Tokenizing := do
  let s ← s.remember
  let (tag, next) ← s.place.tag
  return ((s.push (.tag tag)).moveTo next).allowKey false

def takeBlockScalar (folded : Bool) (s : Tokenizing) : Except Fault Tokenizing := do
  let s ← s.dropCandidate
  let (t, next) ← s.place.step.blockScalar folded s.indent
  return ((s.push (.scalar t false)).moveTo next).allowKey true

def takeQuoted (double : Bool) (s : Tokenizing) : Except Fault Tokenizing := do
  let s ← s.remember
  let c := s.place.step
  let fuel := c.rest.length + 1
  let (t, next) ← if double then c.doubleQuoted fuel else c.singleQuoted fuel
  return ((s.push (.scalar t false)).moveTo next).allowKey false

def takePlain (s : Tokenizing) : Except Fault Tokenizing := do
  let s ← s.remember
  let (t, newLine, next) :=
    s.place.plainScalar (!s.inBlock) s.indent [] (s.place.rest.length + 1)
  return ((s.push (.scalar t true)).moveTo next).allowKey newLine

def startsPlain (s : Tokenizing) (ch : Char) : Bool :=
  !(isSpaceOrTab ch || isBreak ch ||
      ("-?:,[]\x7b\x7d#&*!|>\x27\"%@\x60" : Text).contains ch) ||
    !endsWord (s.place.peekAt 1) && (ch = '-' || s.inBlock && (ch = '?' || ch = ':'))

/-- Reads one token, with the tokens that indentation adds in front of it. -/
def next (s : Tokenizing) : Except Fault Tokenizing := do
  let s := s.skipToToken (s.place.rest.length + 1)
  let s ← s.dropStale
  let s := s.unwind s.place.column
  let wordFollows := !endsWord (s.place.peekAt 1)
  match s.place.peek with
  | none => s.finish
  | some ch =>
    let atLineStart := s.place.column == 0
    if ch = '%' && atLineStart then s.takeDirective
    else if ch = '-' && atLineStart && s.place.atSeparator then s.takeSeparator .documentStart
    else if ch = '.' && atLineStart && s.place.atSeparator then s.takeSeparator .documentEnd
    else if ch = '[' then s.takeOpening .flowSequenceStart
    else if ch = '\x7b' then s.takeOpening .flowMappingStart
    else if ch = ']' then s.takeClosing .flowSequenceEnd
    else if ch = '\x7d' then s.takeClosing .flowMappingEnd
    else if ch = ',' then s.takeFlowEntry
    else if ch = '-' && !wordFollows then s.takeBlockEntry
    else if ch = '?' && (!s.inBlock || !wordFollows) then s.takeKey
    else if ch = ':' && (!s.inBlock || !wordFollows) then s.takeValue
    else if ch = '*' then s.takeAnchor .alias
    else if ch = '&' then s.takeAnchor .anchor
    else if ch = '!' then s.takeTag
    else if ch = '|' && s.inBlock then s.takeBlockScalar false
    else if ch = '>' && s.inBlock then s.takeBlockScalar true
    else if ch = '\x27' then s.takeQuoted false
    else if ch = '"' then s.takeQuoted true
    else if s.startsPlain ch then s.takePlain
    else throw .malformed

/-- The tokens so far that no mark of a key can be put in front of any more. -/
def settled (s : Tokenizing) : List Token :=
  let pending := s.candidates.filter fun entry => s.isFresh entry.2
  s.tokens.reverse.take (pending.foldl (fun least entry => min least entry.2.number) s.count)

/-- Reads tokens to the end of the text. -/
def run (s : Tokenizing) : Nat → TokenStream
  | 0 => ⟨s.settled, some .malformed⟩
  | fuel + 1 =>
    match s.next with
    | .error fault => ⟨s.settled, some fault⟩
    | .ok s => if s.finished then ⟨s.tokens.reverse, none⟩ else run s fuel

end Tokenizing

/-- Characters that may stand in a YAML text. -/
def isAllowed (c : Char) : Bool :=
  let n := c.toNat
  n == 0x9 || n == 0xa || n == 0xd || (0x20 ≤ n && n ≤ 0x7e) || n == 0x85 ||
    (0xa0 ≤ n && n ≤ 0xd7ff) || (0xe000 ≤ n && n ≤ 0xfffd) || 0x10000 ≤ n

/-- The tokens of a text. A byte order mark at the start is skipped. -/
def tokens (t : Text) : TokenStream :=
  if t.all isAllowed then
    let s := Tokenizing.start t
    let s := if s.place.peek = some '\ufeff' then s.moveTo s.place.step else s
    s.run (t.length + 2)
  else ⟨[], some .malformed⟩

end Yaml
end SearchQuery
