import SearchQuery.Yaml.Content

/-!
# Documents

What a document says. Through aliases a collection can be a part of itself; then the document has
no end, and no value. Its outline is a value all the same: it goes down a few levels and leaves the
collections below empty.
-/

namespace SearchQuery
namespace Yaml

/-- A document: the contents of its nodes, and its root. -/
structure Document where
  contents : Array (Option Content)
  root : NodeId

namespace Document

def content (d : Document) (id : NodeId) : Content :=
  ((d.contents[id]?).join).getD (.scalar .null)

def scalarOf (d : Document) (id : NodeId) : Scalar :=
  match d.content id with
  | .scalar s => s
  | _ => .null

/-- The value of a node, if it has less than the given number of levels. -/
def valueOf? (d : Document) (id : NodeId) : Nat → Option Value
  | 0 => none
  | levels + 1 =>
    match d.content id with
    | .scalar s => some (.scalar s)
    | .list items => do
      let values ← items.mapM fun item => d.valueOf? item levels
      return .list values
    | .pairs pairs => do
      let values ← pairs.mapM fun (key, value) => do
        return .list [← d.valueOf? key levels, ← d.valueOf? value levels]
      return .list values
    | .map entries => do
      let entries ← entries.mapM fun (key, value) => do
        return (d.scalarOf key, ← d.valueOf? value levels)
      return .map entries
    | .set members => some (.set (members.map d.scalarOf))

/-- What the document says, if it has an end: then no node stands above itself. -/
def value? (d : Document) : Option Value := d.valueOf? d.root (d.contents.size + 1)

/-- The value of a node, with the collections empty that are some levels down. -/
def outlineOf (d : Document) (id : NodeId) : Nat → Value
  | 0 =>
    match d.content id with
    | .scalar s => .scalar s
    | .list _ | .pairs _ => .list []
    | .map _ => .map []
    | .set _ => .set []
  | levels + 1 =>
    match d.content id with
    | .scalar s => .scalar s
    | .list items => .list (items.map fun item => d.outlineOf item levels)
    | .pairs pairs =>
      .list (pairs.map fun (key, value) => .list [d.outlineOf key levels, d.outlineOf value levels])
    | .map entries =>
      .map (entries.map fun (key, value) => (d.scalarOf key, d.outlineOf value levels))
    | .set members => .set (members.map d.scalarOf)

/-- The levels that an outline shows. -/
def outlineDepth : Nat := 3

/-- What the document says, down to the levels of an outline if it has no end. -/
def visible (d : Document) : Value := d.value?.getD (d.outlineOf d.root outlineDepth)

/-- Whether two nodes are mappings with mappings under a common key, and so on for some levels. -/
def meets (a b : Document) (i j : NodeId) : Nat → Bool
  | 0 => true
  | levels + 1 =>
    match a.content i, b.content j with
    | .map entries, .map others =>
      entries.any fun (key, value) =>
        match others.find? fun (k, _) => Scalar.SameKey (a.scalarOf key) (b.scalarOf k) with
        | some (_, other) => meets a b value other levels
        | none => false
    | _, _ => false

/-- Whether laying one document over the other comes to no end, because mappings meet again and
again. -/
def meetEndlessly (a b : Document) : Bool :=
  meets a b a.root b.root (a.contents.size * b.contents.size + 1)

/-- The only document of a text; a text without a document says null. -/
def ofText (t : Text) : Except Fault Document := do
  match ← Graph.ofText t with
  | (_, none) => return ⟨#[], 0⟩
  | (nodes, some root) => return ⟨← contentsOf nodes root, root⟩

end Document

def load (t : Text) : Except Fault Value := do
  match (← Document.ofText t).value? with
  | some v => return v
  | none => throw .tooDeep

end Yaml
end SearchQuery
