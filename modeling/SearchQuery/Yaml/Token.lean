import SearchQuery.Text.Utf8
import SearchQuery.Yaml.ScalarText

/-!
# Tokens

The pieces of a YAML text. Indentation is spelled out by tokens that begin and end blocks, and a
key that needs no mark of its own is preceded by one all the same.
-/

namespace SearchQuery
namespace Yaml

/-- A tag as written: a suffix after a handle, or a complete tag. -/
structure WrittenTag where
  handle : Option Text
  suffix : Text
  deriving DecidableEq, Repr

inductive Token where
  | version (major : Nat)
  | tagHandle (handle stem : Text)
  | reservedDirective
  | documentStart
  | documentEnd
  | streamEnd
  | blockSequenceStart
  | blockMappingStart
  | blockEnd
  | flowSequenceStart
  | flowSequenceEnd
  | flowMappingStart
  | flowMappingEnd
  | flowEntry
  | blockEntry
  | key
  | value
  | alias (name : Text)
  | anchor (name : Text)
  | tag (tag : WrittenTag)
  | scalar (text : Text) (plain : Bool)
  deriving DecidableEq, Repr

namespace Cursor

/-- A name, which may not be empty. -/
def name (c : Cursor) : Except Fault (Text × Cursor) :=
  let (t, next) := c.span isNameChar
  if t.isEmpty then .error .malformed else .ok (t, next)

/-- The name of an anchor or an alias, from the place after its mark. -/
def anchorName (c : Cursor) : Except Fault (Text × Cursor) := do
  let (t, next) ← c.name
  if endsWord next.peek || next.peek.any (("?:,]\x7d%@\x60" : Text).contains ·) then
    return (t, next)
  else throw .malformed

/-- Characters that may stand in a tag besides letters and digits. -/
def isUriChar (c : Char) : Bool :=
  c.isAlphanum || ("-;/?:@&=+$,_.!~*\x27()[]" : Text).contains c

/-- Octets written as two hexadecimal digits after a percent sign each. -/
def uriOctets (c : Cursor) : Nat → Except Fault (List UInt8 × Cursor)
  | 0 => .ok ([], c)
  | fuel + 1 =>
    if c.peek = some '%' then
      match hexNumber? 2 c.step.rest with
      | none => .error .malformed
      | some n => do
        let (octets, stop) ← uriOctets (advance 3 c) fuel
        return (n.toUInt8 :: octets, stop)
    else .ok ([], c)

/-- The characters of a tag; percent signs encode octets. -/
def uriChars (c : Cursor) : Nat → Except Fault (Text × Cursor)
  | 0 => .ok ([], c)
  | fuel + 1 => do
    let (t, next) := c.span isUriChar
    if next.peek = some '%' then
      let (octets, next) ← uriOctets next (next.rest.length + 1)
      match Text.ofUtf8? octets with
      | none => throw .malformed
      | some decoded =>
        let (more, stop) ← uriChars next fuel
        return (t ++ decoded ++ more, stop)
    else return (t, next)

/-- A tag or a part of one, which may not be empty. -/
def uri (c : Cursor) : Except Fault (Text × Cursor) := do
  let (t, next) ← c.uriChars (c.rest.length + 1)
  if next.index = c.index then throw .malformed else return (t, next)

/-- A handle: one exclamation mark, or a name between two. -/
def handle (c : Cursor) : Except Fault (Text × Cursor) :=
  if c.peek ≠ some '!' then .error .malformed
  else
    let (t, next) := c.step.span isNameChar
    if t.isEmpty && next.peek = some ' ' then .ok ("!", next)
    else if next.peek = some '!' then .ok ('!' :: t ++ ['!'], next.step)
    else .error .malformed

/-- Whether a second exclamation mark follows before the end of the word. -/
def hasHandle (c : Cursor) : Bool :=
  let word := c.step.rest.takeWhile fun ch => !(ch = ' ' || isBreak ch)
  word.contains '!'

/-- A tag, from its exclamation mark on. -/
def tag (c : Cursor) : Except Fault (WrittenTag × Cursor) := do
  let (tag, next) ←
    if c.peekAt 1 = some '<' then do
      let (t, next) ← (advance 2 c).uri
      if next.peek = some '>' then pure (⟨none, t⟩, next.step) else throw .malformed
    else if endsWord (c.peekAt 1) then pure (⟨none, "!"⟩, c.step)
    else if c.hasHandle then do
      let (h, next) ← c.handle
      let (t, next) ← next.uri
      pure (⟨some h, t⟩, next)
    else do
      let (t, next) ← c.step.uri
      pure (⟨some "!", t⟩, next)
  if endsSpaced next.peek then return (tag, next) else throw .malformed

def number (c : Cursor) : Except Fault (Nat × Cursor) :=
  let (digits, next) := c.span Char.isDigit
  if digits.isEmpty then .error .malformed
  else if digits.length > mostDecimalDigits then .error .invalidScalar
  else .ok (digits.foldl (fun n d => 10 * n + (d.toNat - '0'.toNat)) 0, next)

/-- A directive, from its percent sign to the end of the line. -/
def directive (c : Cursor) : Except Fault (Token × Cursor) := do
  let (name, next) ← c.step.name
  if !endsSpaced next.peek then throw .malformed
  else if name = "YAML" then
    let (major, next) ← next.skipSpaces.number
    if next.peek ≠ some '.' then throw .malformed
    else
      let (_, next) ← next.step.number
      if !endsSpaced next.peek then throw .malformed
      else return (.version major, ← next.finishLine)
  else if name = "TAG" then
    let (handle, next) ← next.skipSpaces.handle
    if next.peek ≠ some ' ' then throw .malformed
    else
      let (stem, next) ← next.skipSpaces.uri
      if !endsSpaced next.peek then throw .malformed
      else return (.tagHandle handle stem, ← next.finishLine)
  else return (.reservedDirective, ← next.skipLine.finishLine)

end Cursor
end Yaml
end SearchQuery
