import SearchQuery.Query.Clause
import SearchQuery.Query.Error
import SearchQuery.Value.Equality

/-!
# Queries

A query keeps its items in three buckets, one for each role, and every bucket in the order of
insertion. A query that is aggregated from items holds each of them once; one that is put
together by hand may hold anything anywhere.
-/

namespace SearchQuery

namespace Item

/-- The role whose bucket an item belongs to. The name of a role is as good as the role. -/
def role : Item → Except QueryError Role
  | .clause c => .ok c.role
  | .marked marker _ =>
    match marker with
    | .text name =>
      match Role.named? name with
      | some role => .ok role
      | none => .error (.unknownOperator (.scalar marker))
    | _ => .error (.unknownOperator (.scalar marker))
  | .foreign value => .error (.unknownClause value)

def body : Item → Except QueryError Body
  | .clause c => .ok c.body
  | .marked _ body => .ok body
  | .foreign value => .error (.unknownClause value)

/-- What an item has in the place of its role. -/
def marker : Item → Option Scalar
  | .clause c => some (.text c.role.name)
  | .marked marker _ => some marker
  | .foreign _ => none

/-- Whether two items are equal; a role equals its name. -/
def equals : Item → Item → Bool
  | .foreign a, .foreign b => a.equals b
  | .foreign _, _ => false
  | _, .foreign _ => false
  | .clause a, .clause b => a == b
  | .clause a, .marked m body => a.body == body && Scalar.equals (.text a.role.name) m
  | .marked m body, .clause b => b.body == body && Scalar.equals m (.text b.role.name)
  | .marked m a, .marked n b => a == b && Scalar.equals m n

/-- Whether an item may stand in a key; a list, a mapping or a set may not. -/
def isKey : Item → Bool
  | .foreign (.scalar _) | .clause _ | .marked _ _ => true
  | .foreign _ => false

end Item

structure Query where
  optional : List Item
  required : List Item
  excluded : List Item

namespace Query

def empty : Query := ⟨[], [], []⟩

def bucket (q : Query) : Role → List Item
  | .optional => q.optional
  | .required => q.required
  | .excluded => q.excluded

/-- A bucket is found by a role only; a plain value is no role, whatever it spells. -/
def bucketOfValue (_ : Query) (value : Value) : Except QueryError (List Item) :=
  .error (.unknownOperator value)

def items (q : Query) : List Item := Role.all.flatMap q.bucket

def size (q : Query) : Nat := q.optional.length + q.required.length + q.excluded.length

def isEmpty (q : Query) : Bool := q.optional.isEmpty && q.required.isEmpty && q.excluded.isEmpty

/-- The query with an item added at the end of a bucket. -/
def insert (q : Query) (item : Item) : Role → Query
  | .optional => { q with optional := q.optional ++ [item] }
  | .required => { q with required := q.required ++ [item] }
  | .excluded => { q with excluded := q.excluded ++ [item] }

@[simp] theorem bucket_insert (q : Query) (item : Item) (role r : Role) :
    (q.insert item role).bucket r = q.bucket r ++ if r = role then [item] else [] := by
  cases role <;> cases r <;> simp [insert, bucket]

@[simp] theorem bucket_empty (role : Role) : empty.bucket role = [] := by cases role <;> rfl

theorem isEmpty_iff {q : Query} : q.isEmpty = true ↔ q = empty := by
  obtain ⟨o, r, e⟩ := q
  simp [isEmpty, empty, and_assoc]

theorem isEmpty_iff_items {q : Query} : q.isEmpty = true ↔ q.items = [] := by
  simp [isEmpty, items, Role.all, bucket, and_assoc]

theorem length_items (q : Query) : q.items.length = q.size := by
  simp [items, size, Role.all, bucket, Nat.add_assoc]

def place (q : Query) (item : Item) : Except QueryError Query := do
  let role ← item.role
  return q.insert item role

/-- The query of a sequence of items. The first item without a bucket is the failure. -/
def aggregate (items : List Item) : Except QueryError Query := items.foldlM place empty

theorem aggregate_append (a b : List Item) :
    aggregate (a ++ b) = (aggregate a).bind fun q => b.foldlM place q := by
  simp only [aggregate, List.foldlM_append]
  rfl

def equals (a b : Query) : Bool :=
  Role.all.all fun role =>
    (a.bucket role).length == (b.bucket role).length &&
      ((a.bucket role).zip (b.bucket role)).all fun (x, y) => x.equals y

def sameKey (a b : Query) : Except QueryError Bool :=
  if a.equals b && !a.items.all Item.isKey then .error .notAKey
  else .ok (a.equals b)

end Query
end SearchQuery
