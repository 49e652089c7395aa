import SearchQuery.Text.Basic
import SearchQuery.Decimal.Binary64

/-!
# Values

The data that settings and compiled queries are made of. A mapping is a list of entries in the
order in which their keys were first set. Keys are scalars, and numbers that are equal are the
same key, whether they are written as a truth value, an integer or a floating-point number. What
is no number equals nothing: only the constant that says so is the same key wherever it stands.
-/

namespace SearchQuery

/-- A value without parts. A moment counts microseconds since the year 1; one with a zone counts
them in universal time. `float .nan` is the constant that stands for no number; `nan` is the outcome
of a reading that gave no number. -/
inductive Scalar where
  | null
  | bool (b : Bool)
  | int (i : Int)
  | float (x : Binary64)
  | nan
  | text (t : Text)
  | bytes (octets : List UInt8)
  | date (year month day : Nat)
  | moment (microseconds : Int) (zoned : Bool)
  deriving DecidableEq, Repr

namespace Scalar

/-- The representative of all scalars that are the same key: truth values and whole
floating-point numbers are integers. -/
def canonical : Scalar → Scalar
  | .bool b => .int (if b then 1 else 0)
  | .float x =>
    match x.toInt? with
    | some i => .int i
    | none => .float x
  | s => s

@[simp] theorem canonical_eq_nan {a : Scalar} : a.canonical = .nan ↔ a = .nan := by
  cases a with
  | float x => cases h : x.toInt? <;> simp [canonical, h]
  | _ => simp [canonical]

/-- Whether two scalars are the same key. Each `nan` is a key of its own. -/
def SameKey (a b : Scalar) : Prop := a.canonical = b.canonical ∧ a ≠ .nan

instance : DecidableRel SameKey :=
  fun a b => inferInstanceAs (Decidable (a.canonical = b.canonical ∧ a ≠ .nan))

@[simp] theorem sameKey_self_iff {a : Scalar} : SameKey a a ↔ a ≠ .nan := by simp [SameKey]

theorem SameKey.symm {a b : Scalar} (h : SameKey a b) : SameKey b a :=
  ⟨h.1.symm, fun hb => h.2 (canonical_eq_nan.1 (h.1.trans (canonical_eq_nan.2 hb)))⟩

theorem SameKey.trans {a b c : Scalar} (h : SameKey a b) (k : SameKey b c) : SameKey a c :=
  ⟨h.1.trans k.1, h.2⟩

/-- The name of the kind of a scalar, as messages show it. -/
def kindName : Scalar → Text
  | .null => "NoneType"
  | .bool _ => "bool"
  | .int _ => "int"
  | .float _ => "float"
  | .nan => "float"
  | .text _ => "str"
  | .bytes _ => "bytes"
  | .date .. => "date"
  | .moment .. => "datetime"

/-- Whether a scalar stands for nothing: null, false, zero, and no characters or octets. -/
def isVoid : Scalar → Bool
  | .null => true
  | .bool b => !b
  | .int i => i == 0
  | .float x => x.isZero
  | .nan => false
  | .text t => t.isEmpty
  | .bytes octets => octets.isEmpty
  | .date .. => false
  | .moment .. => false

end Scalar

/-- A scalar, a list, a mapping or a set. -/
inductive Value where
  | scalar (s : Scalar)
  | list (items : List Value)
  | map (entries : List (Scalar × Value))
  | set (members : List Scalar)
  deriving Repr

abbrev Entries := List (Scalar × Value)

namespace Value

abbrev null : Value := .scalar .null
abbrev bool (b : Bool) : Value := .scalar (.bool b)
abbrev int (i : Int) : Value := .scalar (.int i)
abbrev text (t : Text) : Value := .scalar (.text t)

/-- A mapping with texts as keys. -/
def object (fields : List (Text × Value)) : Value :=
  .map (fields.map fun (key, value) => (.text key, value))

def kindName : Value → Text
  | .scalar s => s.kindName
  | .list _ => "list"
  | .map _ => "dict"
  | .set _ => "set"

/-- Whether a value stands for nothing: a void scalar, or no parts. -/
def isVoid : Value → Bool
  | .scalar s => s.isVoid
  | .list items => items.isEmpty
  | .map entries => entries.isEmpty
  | .set members => members.isEmpty

end Value

namespace Entries

def get? (key : Scalar) : Entries → Option Value
  | [] => none
  | (k, v) :: rest => if Scalar.SameKey k key then some v else get? key rest

@[simp] theorem get?_nil (key : Scalar) : get? key [] = none := rfl

/-- Sets a key. A key that is there keeps its place and its spelling; a new one comes last. -/
def put (key : Scalar) (value : Value) : Entries → Entries
  | [] => [(key, value)]
  | (k, v) :: rest =>
    if Scalar.SameKey k key then (k, value) :: rest else (k, v) :: put key value rest

/-- The entries that result when pairs are set one after the other. -/
def ofPairs (pairs : List (Scalar × Value)) : Entries :=
  pairs.foldl (fun entries (key, value) => put key value entries) []

def keys (entries : Entries) : List Scalar := entries.map Prod.fst

theorem get?_put (key : Scalar) (value : Value) (entries : Entries) (k : Scalar) :
    get? k (put key value entries) =
      if Scalar.SameKey key k then some value else get? k entries := by
  induction entries with
  | nil => simp only [put, get?]
  | cons entry rest ih =>
    obtain ⟨j, v⟩ := entry
    simp only [put]
    split
    case isTrue h =>
      simp only [get?]
      by_cases hk : Scalar.SameKey key k
      · rw [if_pos (h.trans hk), if_pos hk]
      · rw [if_neg hk, if_neg fun hj => hk (h.symm.trans hj), if_neg fun hj => hk (h.symm.trans hj)]
    case isFalse h =>
      simp only [get?, ih]
      by_cases hj : Scalar.SameKey j k
      · rw [if_pos hj, if_neg fun hk => h (hj.trans hk.symm), if_pos hj]
      · rw [if_neg hj, if_neg hj]

theorem get?_eq_none_iff {key : Scalar} {entries : Entries} :
    get? key entries = none ↔ ∀ k ∈ keys entries, ¬ Scalar.SameKey k key := by
  induction entries with
  | nil => simp [get?, keys]
  | cons entry rest ih =>
    obtain ⟨k, v⟩ := entry
    simp only [get?, keys, List.map_cons, List.mem_cons, forall_eq_or_imp]
    split
    case isTrue h => simp [h]
    case isFalse h => simpa [h, keys] using ih

theorem put_of_get?_eq_none {key : Scalar} {entries : Entries} (h : get? key entries = none)
    (value : Value) : put key value entries = entries ++ [(key, value)] := by
  induction entries with
  | nil => rfl
  | cons entry rest ih =>
    obtain ⟨k, v⟩ := entry
    rw [get?] at h
    split at h
    case isTrue => cases h
    case isFalse hk => rw [put, if_neg hk, ih h, List.cons_append]

/-- Setting a key keeps the others in order; a new one comes last. -/
theorem keys_put (key : Scalar) (value : Value) (entries : Entries) :
    keys (put key value entries) =
      keys entries ++ if (get? key entries).isSome then [] else [key] := by
  induction entries with
  | nil => simp [put, keys]
  | cons entry rest ih =>
    obtain ⟨k, v⟩ := entry
    simp only [put, get?]
    split
    case isTrue => simp [keys]
    case isFalse => simpa [keys] using ih

end Entries
end SearchQuery
