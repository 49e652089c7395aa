import SearchQuery.Files.Path
import SearchQuery.Text.Quoted
import SearchQuery.Text.Utf8

/-!
# File trees

The files and directories that a program can see. The directories above the working directory are
there; of what else they hold, only what was put there is known. Names and paths are of bounded
length.
-/

namespace SearchQuery

/-- Why a file or a directory is of no use. The path is the one that was tried. -/
inductive FileError where
  | notFound (path : FilePath)
  | exists (path : FilePath)
  | notADirectory (path : FilePath)
  | isADirectory (path : FilePath)
  | nameTooLong (path : FilePath)
  | nullCharacter
  deriving DecidableEq, Repr

namespace FileError

def message : FileError → Text
  | .notFound path => "[Errno 2] No such file or directory: " ++ path.toText.quoted
  | .exists path => "[Errno 17] File exists: " ++ path.toText.quoted
  | .notADirectory path => "[Errno 20] Not a directory: " ++ path.toText.quoted
  | .isADirectory path => "[Errno 21] Is a directory: " ++ path.toText.quoted
  | .nameTooLong path => "[Errno 36] File name too long: " ++ path.toText.quoted
  | .nullCharacter => "embedded null byte"

end FileError

structure FileTree where
  files : List (FilePath × List UInt8)
  directories : List FilePath

namespace FileTree

def empty : FileTree := ⟨[], []⟩

/-- The most octets of a name, and of a path. -/
def longestName : Nat := 255
def longestPath : Nat := 4095

/-- What a path leads to: a file or a directory with its place, or nothing, because a name is not
there, is that of a file on the way, or cannot be a name. -/
inductive Target where
  | file (place : FilePath) (octets : List UInt8)
  | directory (place : FilePath)
  | missing
  | blocked
  | tooLong
  | unspeakable
  deriving DecidableEq, Repr

/-- Why what a path leads to is not what was asked for. -/
def Target.error (p : FilePath) : Target → FileError
  | .file _ _ => .exists p
  | .directory _ => .isADirectory p
  | .missing => .notFound p
  | .blocked => .notADirectory p
  | .tooLong => .nameTooLong p
  | .unspeakable => .nullCharacter

def isDirectory (tree : FileTree) (p : FilePath) : Bool :=
  p.isUpward || tree.directories.contains p

/-- What stands in a path that keeps it from being looked up. -/
def obstacle? (p : FilePath) : Option Target :=
  if p.names.any (·.contains '\x00') then some .unspeakable
  else if p.toText.toUtf8.length > longestPath then some .tooLong
  else none

def follow (tree : FileTree) (here : FilePath) : List Text → Target
  | [] => .directory here
  | name :: rest =>
    let there := here.enter name
    if name.toUtf8.length > longestName then .tooLong
    else if tree.isDirectory there then follow tree there rest
    else
      match tree.files.lookup there with
      | some octets => if rest.isEmpty then .file there octets else .blocked
      | none => .missing

def find (tree : FileTree) (p : FilePath) : Target :=
  (obstacle? p).getD (tree.follow p.origin p.names)

def read (tree : FileTree) (p : FilePath) : Except FileError (List UInt8) :=
  match tree.find p with
  | .file _ octets => .ok octets
  | target => .error (target.error p)

/-- Makes the directories that are missing along names, the outermost first, and gives the place of
the last one. The path that is `spelled` so far leads `here`. Where a name cannot be a directory,
those before it have been made. -/
def makeAlong (tree : FileTree) (spelled here : FilePath) :
    List Text → Except FileError FilePath × FileTree
  | [] => (.ok here, tree)
  | name :: rest =>
    let there := here.enter name
    let spelled := spelled.child name
    if name.toUtf8.length > longestName then (.error (.nameTooLong spelled), tree)
    else if tree.isDirectory there then makeAlong tree spelled there rest
    else if (tree.files.lookup there).isSome then (.error (.exists spelled), tree)
    else makeAlong { tree with directories := tree.directories ++ [there] } spelled there rest

/-- Makes a directory and those on the way to it; gives its place. Nothing is made if the path
comes to an obstacle before it comes to a name that is not there. -/
def makeDirectory (tree : FileTree) (p : FilePath) : Except FileError FilePath × FileTree :=
  match tree.find p with
  | .directory _ | .missing => tree.makeAlong { p with names := [] } p.origin p.names
  | target => (.error (target.error p), tree)

/-- Puts a file in its place, and the directories above it. -/
def put (tree : FileTree) (p : FilePath) (octets : List UInt8) : FileTree :=
  { files := tree.files.filter (fun file => file.1 != p) ++ [(p, octets)]
    directories := tree.directories ++ p.ancestors.filter fun d => !tree.isDirectory d }

/-- Puts a file where a path leads, making the directories on the way. -/
def putAlong (tree : FileTree) (p : FilePath) (octets : List UInt8) : FileTree :=
  match p.parent?, p.names.getLast? with
  | some above, some name =>
    match tree.makeDirectory above with
    | (.ok directory, made) => made.put (directory.enter name) octets
    | (.error _, _) => tree
  | _, _ => tree

/-- Opens the file that a path spells, and makes it if its directory is there; gives its place. -/
def openFile (tree : FileTree) (p : FilePath) : Except FileError FilePath × FileTree :=
  let p := p.place
  match tree.find p with
  | .file place _ => (.ok place, tree)
  | .missing =>
    if p.parent?.any tree.isDirectory then (.ok p, tree.put p []) else (.error (.notFound p), tree)
  | target => (.error (target.error p), tree)

def append (tree : FileTree) (p : FilePath) (octets : List UInt8) : FileTree :=
  { tree with
    files := tree.files.map fun file =>
      if file.1 = p then (file.1, file.2 ++ octets) else file }

/-- Whether a file holds log lines, by its name. -/
def isLog (p : FilePath) : Bool := p.names.getLast?.any fun name => ".log".toList.isSuffixOf name

def isBelow (p : FilePath) : Bool := !p.isAbsolute && !p.names.contains "..".toList

/-- The log files below the working directory with their texts, in the order of their paths. -/
def logFiles (tree : FileTree) : List (Text × Text) :=
  let found := tree.files.filter fun file => isLog file.1 && isBelow file.1
  let shown := found.map fun file => (file.1.toText, (Text.ofUtf8? file.2).getD [])
  shown.mergeSort fun a b => String.ofList a.1 ≤ String.ofList b.1

end FileTree
end SearchQuery
