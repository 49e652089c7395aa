import SearchQuery.Value.Basic

/-!
# Equality of values

Numbers are compared by value, lists item by item, and mappings and sets without regard to the
order of their keys. A number that is not a number equals nothing.
-/

namespace SearchQuery

namespace Scalar

def equals (a b : Scalar) : Bool :=
  decide (SameKey a b) && a != .float .nan

end Scalar

namespace Value

mutual

def equals : Value → Value → Bool
  | .scalar a, .scalar b => a.equals b
  | .list as, .list bs => as.length == bs.length && listEquals as bs
  | .map as, .map bs => as.length == bs.length && entriesWithin bs as
  | .set as, .set bs => as.length == bs.length && as.all fun a => bs.any fun b => a.equals b
  | _, _ => false

def listEquals : List Value → List Value → Bool
  | a :: as, b :: bs => equals a b && listEquals as bs
  | _, _ => true

/-- Whether every entry has an equal one in `others`. -/
def entriesWithin (others : List (Scalar × Value)) : List (Scalar × Value) → Bool
  | [] => true
  | (key, a) :: rest =>
    (match Entries.get? key others with
      | some b => equals a b
      | none => false) && entriesWithin others rest

end

end Value
end SearchQuery
