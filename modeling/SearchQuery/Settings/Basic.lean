import SearchQuery.Backend.Registry
import SearchQuery.Settings.Section

/-!
# Settings

What the program can be told: how much is logged and where, and which backend compiles queries.
Reading first loads both sections, in the order of their fields, and then checks the values. The
first violation is reported.
-/

namespace SearchQuery

structure LogSettings where
  level : Text
  toFile : Bool
  directory : Text
  deriving DecidableEq, Repr

structure BackendSettings where
  name : Text
  field : Text
  deriving DecidableEq, Repr

structure Settings where
  log : LogSettings
  backend : BackendSettings
  deriving DecidableEq, Repr

namespace LogSettings

/-- The levels that may be set, in alphabetical order. -/
def levels : List Text := ["CRITICAL", "DEBUG", "ERROR", "INFO", "WARNING"]

/-- Loads the section `log`, which has to be there. The level is read in upper case. -/
def load (root : Entries) : Except SettingsError LogSettings := do
  let entries ← Settings.requiredSection root "log"
  let level ← Settings.requiredValue entries "level" "log.level"
  let level ← Settings.expectText level "log.level"
  let toFile ← Settings.requiredValue entries "to_file" "log.to_file"
  let toFile ← Settings.expectBool toFile "log.to_file"
  let directory ← Settings.requiredValue entries "dir" "log.dir"
  let directory ← Settings.expectText directory "log.dir"
  return ⟨level.upper, toFile, directory⟩

/-- Checks that the level is known and that there is a directory for log files if there are any. -/
def check (s : LogSettings) : Except SettingsError Unit :=
  if s.level ∉ levels then .error .unknownLevel
  else if s.toFile ∧ s.directory.trim.isEmpty then .error .blankLogDirectory
  else .ok ()

theorem check_eq_ok_iff {s : LogSettings} :
    s.check = .ok () ↔ s.level ∈ levels ∧ (s.toFile = true → s.directory.trim ≠ []) := by
  grind [check]

end LogSettings

namespace BackendSettings

def defaultName : Text := BackendKind.neutral.name

/-- The text of a field, or a default when the field is missing. -/
def textOr (entries : Entries) (field key default : Text) : Except SettingsError Text :=
  Settings.expectText ((entries.get? (.text field)).getD (.text default)) key

/-- Loads the section `backend`, which may be missing as a whole or in part. -/
def load (root : Entries) : Except SettingsError BackendSettings := do
  let entries ← Settings.optionalSection root "backend"
  let name ← textOr entries "name" "backend.name" defaultName
  let field ← textOr entries "field" "backend.field" Backend.defaultField
  return ⟨BackendKind.normalize name, field.trim⟩

/-- Checks that the backend is known and that a field is named. -/
def check (s : BackendSettings) : Except SettingsError Unit :=
  if s.name ∉ BackendKind.names then .error (.unknownBackend s.name)
  else if s.field.isEmpty then .error .emptyField
  else .ok ()

theorem check_eq_ok_iff {s : BackendSettings} :
    s.check = .ok () ↔ s.name ∈ BackendKind.names ∧ s.field ≠ [] := by
  grind [check]

end BackendSettings

namespace SettingsError

def message : SettingsError → Text
  | .missing key => "Missing required config: " ++ key
  | .notAnObject key => key ++ " must be an object"
  | .notAString key => key ++ " must be a string"
  | .notABoolean key => key ++ " must be a boolean"
  | .unknownLevel =>
    "log.level must be one of [" ++ Text.joinWith ", " (LogSettings.levels.map Text.quoted) ++ "]"
  | .blankLogDirectory => "log.dir must not be empty when log.to_file=true"
  | .unknownBackend name => "backend.name has unknown backend: " ++ name
  | .emptyField => "backend.field must not be empty"

end SettingsError

namespace Settings

def ofEntries (root : Entries) : Except SettingsError Settings := do
  let log ← LogSettings.load root
  let backend ← BackendSettings.load root
  log.check
  backend.check
  return ⟨log, backend⟩

def toEntries (s : Settings) : Entries :=
  [(.text "log", .object [("level", .text s.log.level), ("to_file", .bool s.log.toFile),
      ("dir", .text s.log.directory)]),
    (.text "backend", .object [("name", .text s.backend.name), ("field", .text s.backend.field)])]

/-- The backend that the settings choose, unless another name is given. An empty name is none. -/
def createBackend (s : Settings) (name : Option Text) : Except UnsupportedBackend Backend :=
  let chosen :=
    match name with
    | some n => if n.isEmpty then s.backend.name else n
    | none => s.backend.name
  Backend.build chosen (some s.backend.field)

end Settings
end SearchQuery
