import SearchQuery.Files.Tree
import SearchQuery.Settings.Basic
import SearchQuery.Text.LineBreak
import SearchQuery.Text.Utf8
import SearchQuery.Value.Overlay
import SearchQuery.Yaml.Document

/-!
# Settings from texts and files

Settings are written in YAML. What an override says is laid over the defaults before anything is
checked. A document that says nothing counts as an empty mapping. Settings look no deeper than two
levels down, so that a document without an end can hold settings too.
-/

namespace SearchQuery

inductive LoadError where
  | file (error : FileError)
  | notUtf8
  | document (fault : Yaml.Fault)
  | rootNotAMapping
  | settings (error : SettingsError)

namespace LoadError

def message : LoadError → Text
  | .file e => e.message
  | .notUtf8 => "Config file is not UTF-8"
  | .document fault => "Config file is not readable YAML: " ++ fault.message
  | .rootNotAMapping => "Config root must be a mapping/object"
  | .settings e => e.message

end LoadError

namespace Settings

def rootOf (v : Value) : Except LoadError Entries :=
  if v.isVoid then .ok []
  else
    match v with
    | .map entries => .ok entries
    | _ => .error .rootNotAMapping

def readDocument (t : Text) : Except LoadError Yaml.Document :=
  (Yaml.Document.ofText t).mapError .document

/-- The entries of the root of a document as far as settings look into them. -/
def outlineOf (d : Yaml.Document) : Except LoadError Entries := rootOf d.visible

/-- Reads the root of a document, which must have an end. -/
def readRoot (t : Text) : Except LoadError Entries := do
  let d ← readDocument t
  let entries ← outlineOf d
  if d.value?.isSome then return entries else throw (.document .tooDeep)

def ofRoot (root : Entries) : Except LoadError Settings := (ofEntries root).mapError .settings

/-- Reads a file as a text with line feeds at the ends of its lines. -/
def readText (files : FileTree) (path : FilePath) : Except LoadError Text := do
  let octets ← (files.read path).mapError .file
  match Text.ofUtf8? octets with
  | some t => return t.unifyLineFeeds
  | none => throw .notUtf8

inductive Defaults where
  | text (t : Text)
  | file (path : FilePath)

/-- Where defaults are kept unless another place is given. -/
def defaultPath : FilePath := FilePath.ofText "config/default.yml"

/-- Loads an override over the defaults. A file that is its own default is loaded alone. -/
def load (files : FileTree) (path : FilePath) (defaults : Defaults) :
    Except LoadError Settings := do
  let base ←
    match defaults with
    | .text t => readDocument t
    | .file d => do readDocument (← readText files d)
  let lower ← outlineOf base
  match defaults with
  | .file d => if path = d then ofRoot lower else overlaid base lower
  | .text _ => overlaid base lower
where
  overlaid (base : Yaml.Document) (lower : Entries) : Except LoadError Settings := do
    let override ← readDocument (← readText files path)
    let upper ← outlineOf override
    if base.meetEndlessly override then throw (.document .tooDeep)
    else ofRoot (Entries.overlay lower upper)

def loadAlone (files : FileTree) (path : FilePath) : Except LoadError Settings :=
  load files path (.file path)

end Settings
end SearchQuery
