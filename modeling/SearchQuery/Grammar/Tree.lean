import SearchQuery.Text.Basic

/-!
# Parse trees

A tree has labelled branches, tokens with a kind, and places that are left empty. The shape is
open: a tree need not come from a text.
-/

namespace SearchQuery

inductive Node where
  | token (kind text : Text)
  | branch (label : Text) (children : List Node)
  | absent
  deriving Repr

end SearchQuery
