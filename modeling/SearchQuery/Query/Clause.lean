import SearchQuery.Value.Basic

/-!
# Clauses

A clause is a term or a phrase together with the role it plays in a query. Queries are built from
items: an item is a clause, a clause whose role is given by a plain value instead of a role, or
something that is no clause at all.
-/

namespace SearchQuery

/-- What a clause asks of a document: it may match, it must match, or it must not match. -/
inductive Role where
  | optional
  | required
  | excluded
  deriving DecidableEq, Repr

namespace Role

/-- All roles, in the order in which a query lists them. -/
def all : List Role := [.optional, .required, .excluded]

theorem mem_all (role : Role) : role ∈ all := by cases role <;> decide

def name : Role → Text
  | .optional => "optional"
  | .required => "required"
  | .excluded => "excluded"

/-- The character written in front of a clause. -/
def symbol : Role → Text
  | .optional => ""
  | .required => "+"
  | .excluded => "-"

def named? (t : Text) : Option Role :=
  all.find? fun role => role.name = t

@[simp] theorem named?_name (role : Role) : named? role.name = some role := by
  cases role <;> decide

def ofValue? : Value → Option Role
  | .scalar (.text name) => named? name
  | _ => none

end Role

/-- What a clause looks for: one word, or a sequence of words that stand side by side. -/
inductive Body where
  | term (text : Text)
  | phrase (text : Text)
  deriving DecidableEq, Repr

structure Clause where
  role : Role
  body : Body
  deriving DecidableEq, Repr

/-- What a query may be built from. The plain value in the place of a role is a scalar: lists and
mappings, which cannot be looked up among the roles, are left out. -/
inductive Item where
  | clause (c : Clause)
  | marked (marker : Scalar) (body : Body)
  | foreign (value : Value)

end SearchQuery
