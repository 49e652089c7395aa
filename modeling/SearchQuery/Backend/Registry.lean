import SearchQuery.Backend.BoolQuery
import SearchQuery.Backend.Neutral
import SearchQuery.Text.Blank
import SearchQuery.Text.Case

/-!
# Backends

A backend turns a query into the body of a request. Backends are chosen by name; blanks around a
name and the case of its letters do not count.
-/

namespace SearchQuery

inductive BackendKind where
  | neutral
  | elasticsearch
  deriving DecidableEq, Repr

namespace BackendKind

/-- All kinds, in the order in which they are listed to users. -/
def all : List BackendKind := [.neutral, .elasticsearch]

def name : BackendKind → Text
  | .neutral => "neutral"
  | .elasticsearch => "elasticsearch"

/-- The kind with exactly the given name. -/
def named? (t : Text) : Option BackendKind :=
  all.find? fun kind => kind.name = t

def names : List Text := all.map name

theorem named?_isSome_iff {t : Text} :
    (named? t).isSome ↔ t ∈ names := by
  simp [named?, names]

def normalize (t : Text) : Text := t.trim.lower

end BackendKind

/-- A backend that is ready to compile. -/
inductive Backend where
  | neutral
  | elasticsearch (field : Text)
  deriving DecidableEq, Repr

structure UnsupportedBackend where
  name : Text

namespace UnsupportedBackend

def message (e : UnsupportedBackend) : Text :=
  "Unsupported backend: " ++ e.name ++ " (expected one of [" ++
    Text.joinWith ", " (BackendKind.names.map Text.quoted) ++ "])"

end UnsupportedBackend

namespace Backend

def defaultField : Text := "text"

def kind : Backend → BackendKind
  | .neutral => .neutral
  | .elasticsearch _ => .elasticsearch

def name (b : Backend) : Text := b.kind.name

/-- The field a backend addresses, if it addresses one. -/
def field? : Backend → Option Text
  | .neutral => none
  | .elasticsearch field => some field

def ofKind (field : Text) : BackendKind → Backend
  | .neutral => .neutral
  | .elasticsearch => .elasticsearch field

/-- The backend with a name, addressing the given field or the default one. -/
def build (name : Text) (field : Option Text) : Except UnsupportedBackend Backend :=
  match BackendKind.named? (BackendKind.normalize name) with
  | some kind => .ok (ofKind (field.getD defaultField) kind)
  | none => .error ⟨name⟩

theorem name_build {name : Text} {field : Option Text} {b : Backend}
    (h : build name field = .ok b) : b.name = BackendKind.normalize name := by
  unfold build at h
  split at h
  case h_1 kind hk =>
    cases h
    have := List.find?_some hk
    cases kind <;> simpa [ofKind, Backend.name, Backend.kind] using this
  case h_2 => cases h

def compile : Backend → Query → Except QueryError Value
  | .neutral, q => q.neutral
  | .elasticsearch field, q => BoolQuery.compile field q

end Backend
end SearchQuery
