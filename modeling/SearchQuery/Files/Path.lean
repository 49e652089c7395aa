import SearchQuery.Text.Basic

/-!
# Paths

A path is a list of names with slashes between them. Empty names and single dots do not count, so
that paths which differ only in them are one path. A path of no names is the working directory,
or the root if it starts with a slash. Two dots lead up.
-/

namespace SearchQuery

/-- A path from the working directory or, after one or two leading slashes, from the root. -/
structure FilePath where
  slashes : Nat
  names : List Text
  deriving DecidableEq, Repr

namespace FilePath

/-- The path that a text spells. Exactly two leading slashes are kept apart from one. -/
def ofText (t : Text) : FilePath :=
  let leading := (t.takeWhile (· == '/')).length
  { slashes := if leading = 0 then 0 else if leading = 2 then 2 else 1
    names := (Text.splitAtChar '/' t).filter fun name => !name.isEmpty && name != ['.'] }

def toText (p : FilePath) : Text :=
  if p.slashes = 0 ∧ p.names.isEmpty then "."
  else List.replicate p.slashes '/' ++ Text.joinWith "/" p.names

def isAbsolute (p : FilePath) : Bool := p.slashes != 0

/-- The path of a name in a directory. -/
def child (p : FilePath) (name : Text) : FilePath := { p with names := p.names ++ [name] }

/-- The path that leads on from a directory along another path; an absolute one leads on from the
root. -/
def join (p q : FilePath) : FilePath :=
  if q.isAbsolute then q else { p with names := p.names ++ q.names }

/-- The directory that relative or absolute paths start from. -/
def origin (p : FilePath) : FilePath := ⟨min p.slashes 1, []⟩

def parent? (p : FilePath) : Option FilePath :=
  if p.names.isEmpty then none else some { p with names := p.names.dropLast }

@[simp] theorem parent?_child (p : FilePath) (name : Text) : (p.child name).parent? = some p := by
  simp [child, parent?]

/-- Whether a path leads up only: to the working directory or one above it, or to the root. -/
def isUpward (p : FilePath) : Bool := p.names.all (· == "..")

/-- The directory that a directory lies in. The root lies in itself. -/
def outer (p : FilePath) : FilePath :=
  if !p.isUpward then { p with names := p.names.dropLast }
  else if p.isAbsolute then p
  else p.child ".."

def enter (p : FilePath) (name : Text) : FilePath := if name = ".." then p.outer else p.child name

/-- The place that a path spells, if all it passes through are directories: names that lead up come
first. -/
def place (p : FilePath) : FilePath := p.names.foldl enter p.origin

/-- The paths of the directories that a path passes through, the outermost first. -/
def ancestors (p : FilePath) : List FilePath :=
  (List.range p.names.length).map fun n => { p with names := p.names.take n }

end FilePath
end SearchQuery
