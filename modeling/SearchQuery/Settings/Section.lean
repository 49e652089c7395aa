import SearchQuery.Value.Basic

/-!
# Sections of a settings mapping

Settings are read from a mapping of sections. A key is named in messages with its section in
front, as in `log.level`.
-/

namespace SearchQuery

inductive SettingsError where
  | missing (key : Text)
  | notAnObject (key : Text)
  | notAString (key : Text)
  | notABoolean (key : Text)
  | unknownLevel
  | blankLogDirectory
  | unknownBackend (name : Text)
  | emptyField
  deriving DecidableEq, Repr

namespace Settings

/-- The entries of a section. A section that is null is missing. -/
def section? (root : Entries) (key : Text) : Except SettingsError (Option Entries) :=
  match root.get? (.text key) with
  | none => .ok none
  | some (.scalar .null) => .ok none
  | some (.map entries) => .ok (some entries)
  | some _ => .error (.notAnObject key)

def requiredSection (root : Entries) (key : Text) : Except SettingsError Entries := do
  match ← section? root key with
  | some entries => return entries
  | none => .error (.missing key)

def optionalSection (root : Entries) (key : Text) : Except SettingsError Entries := do
  return (← section? root key).getD []

def requiredValue (entries : Entries) (field key : Text) : Except SettingsError Value :=
  match entries.get? (.text field) with
  | some value => .ok value
  | none => .error (.missing key)

def expectText (value : Value) (key : Text) : Except SettingsError Text :=
  match value with
  | .scalar (.text t) => .ok t
  | _ => .error (.notAString key)

def expectBool (value : Value) (key : Text) : Except SettingsError Bool :=
  match value with
  | .scalar (.bool b) => .ok b
  | _ => .error (.notABoolean key)

end Settings
end SearchQuery
