import SearchQuery.Text.Quoted
import SearchQuery.Decimal.Layout
import SearchQuery.Value.Basic

/-!
# JSON

Values as JSON documents of several lines: every item and every entry stands on a line of its own,
indented by two spaces for each level. Only what must be escaped is escaped. Keys are written as
texts.
-/

namespace SearchQuery
namespace Json

/-- One character of a text. The quote, the backslash and the control characters are escaped. -/
def escape (c : Char) : Text :=
  if c = '"' then ['\\', '"']
  else if c = '\\' then ['\\', '\\']
  else if c = '\n' then ['\\', 'n']
  else if c = '\r' then ['\\', 'r']
  else if c = '\t' then ['\\', 't']
  else if c = '\x0c' then ['\\', 'f']
  else if c = '\x08' then ['\\', 'b']
  else if c.toNat < 0x20 then '\\' :: 'u' :: Text.hexDigits 4 c.toNat
  else [c]

def string (t : Text) : Text := '"' :: t.flatMap escape ++ ['"']

def number : Binary64 → Text
  | .nan => "NaN"
  | .infinite negative => if negative then "-Infinity" else "Infinity"
  | x => x.toText

/-- The text of a scalar. Kinds of scalar that JSON does not have are written as texts. -/
def scalar : Scalar → Text
  | .null => "null"
  | .bool b => if b then "true" else "false"
  | .int i => Text.ofInt i
  | .float x => number x
  | .nan => number .nan
  | .text t => string t
  | .bytes octets => string (octets.map fun octet => Char.ofNat octet.toNat)
  | .date year month day =>
    string (Text.joinWith "-" [Text.ofNat year, Text.ofNat month, Text.ofNat day])
  | .moment microseconds _ => string (Text.ofInt microseconds)

/-- A key: a text as it is, any other scalar by its text. -/
def key : Scalar → Text
  | .text t => string t
  | .null => string (scalar .null)
  | .bool b => string (scalar (.bool b))
  | .int i => string (scalar (.int i))
  | .float x => string (scalar (.float x))
  | .nan => string (scalar .nan)
  | s => scalar s

def newline (level : Nat) : Text := '\n' :: List.replicate (2 * level) ' '

/-- Parts between brackets, each on a line of its own. -/
def bracketed (opening closing : Text) (level : Nat) (parts : List Text) : Text :=
  if parts.isEmpty then opening ++ closing
  else
    opening ++ newline (level + 1) ++ Text.joinWith ("," ++ newline (level + 1)) parts ++
      newline level ++ closing

mutual

def write (level : Nat) : Value → Text
  | .scalar s => scalar s
  | .list items => bracketed "[" "]" level (writeItems (level + 1) items)
  | .map entries => bracketed "\x7b" "\x7d" level (writeEntries (level + 1) entries)
  | .set members => bracketed "[" "]" level (members.map scalar)

def writeItems (level : Nat) : List Value → List Text
  | [] => []
  | v :: rest => write level v :: writeItems level rest

def writeEntries (level : Nat) : List (Scalar × Value) → List Text
  | [] => []
  | (k, v) :: rest => (key k ++ ": " ++ write level v) :: writeEntries level rest

end

def render (value : Value) : Text := write 0 value

end Json
end SearchQuery
