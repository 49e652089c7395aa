import SearchQuery.Yaml.Node

/-!
# Contents of nodes

What the nodes of a document hold once they are read: scalars, and collections of the numbers of
their parts. Collections are filled one after the other, the root first, and each when its turn
comes; what it holds is settled before any of its parts is filled. When the turn comes to a
mapping, its merge keys are resolved: the entries of the mappings they name are put in front of
its own entries. From then on the node has these entries for all who look at it.
-/

namespace SearchQuery
namespace Yaml

namespace Node

def tag : Node → Tag
  | .scalar tag _ => tag
  | .sequence tag _ => tag
  | .mapping tag _ => tag

/-- The node with another kind. -/
def withTag (tag : Tag) : Node → Node
  | .scalar _ t => .scalar tag t
  | .sequence _ items => .sequence tag items
  | .mapping _ entries => .mapping tag entries

end Node

/-- What a node holds. The parts of a collection are given by their numbers. -/
inductive Content where
  | scalar (s : Scalar)
  | list (items : List NodeId)
  | pairs (pairs : List (NodeId × NodeId))
  | map (entries : List (NodeId × NodeId))
  | set (members : List NodeId)
  deriving Repr

/-- The nodes with their merge keys as far as they are resolved, the contents that are known, and
the collections that are still to be filled, the last one first. `bound` bounds the steps of one
resolution. -/
structure Filling where
  nodes : Graph
  contents : Array (Option Content)
  waiting : List NodeId
  bound : Nat

abbrev Fill := StateT Filling (Except Fault)

namespace Fill

def fail {α : Type} : Fill α := throw .malformed

def node (id : NodeId) : Fill Node := do
  match (← get).nodes[id]? with
  | some n => return n
  | none => fail

def replace (id : NodeId) (n : Node) : Fill Unit :=
  modify fun s => { s with nodes := s.nodes.setIfInBounds id n }

def content? (id : NodeId) : Fill (Option Content) := do
  return ((← get).contents[id]?).join

def settle (id : NodeId) (c : Content) : Fill Unit :=
  modify fun s => { s with contents := s.contents.setIfInBounds id (some c) }

def hasTag (tag : Tag) (id : NodeId) : Fill Bool := do return (← node id).tag = tag

def entriesOf (id : NodeId) : Fill (List (NodeId × NodeId)) := do
  match ← node id with
  | .mapping _ entries => return entries
  | _ => fail

def setEntries (id : NodeId) (entries : List (NodeId × NodeId)) : Fill Unit := do
  replace id (.mapping (← node id).tag entries)

/-- The number of entries before the first merge key. An equals sign that is a key among them
becomes a text. -/
def ownEntries : List (NodeId × NodeId) → Fill Nat
  | [] => return 0
  | (key, _) :: rest => do
    let n ← node key
    if n.tag = .merge then return 0
    else
      if n.tag = .value then replace key (n.withTag .str)
      return (← ownEntries rest) + 1

mutual

def resolve (id : NodeId) : Nat → Fill Unit
  | 0 => throw .tooDeep
  | fuel + 1 => do
    let merged ← mergedFrom id 0 fuel
    if !merged.isEmpty then setEntries id (merged ++ (← entriesOf id))

/-- Takes the merge keys out of a mapping, from a place on; gives the entries that they bring in. -/
def mergedFrom (id : NodeId) (start : Nat) : Nat → Fill (List (NodeId × NodeId))
  | 0 => throw .tooDeep
  | fuel + 1 => do
    let entries ← entriesOf id
    let start := start + (← ownEntries (entries.drop start))
    match entries[start]? with
    | none => return []
    | some (_, source) =>
      setEntries id (entries.eraseIdx start)
      let merged ← broughtBy source fuel
      return merged ++ (← mergedFrom id start fuel)

/-- The entries of a mapping, or of several in a sequence, those of the first last. -/
def broughtBy (source : NodeId) : Nat → Fill (List (NodeId × NodeId))
  | 0 => throw .tooDeep
  | fuel + 1 => do
    match ← node source with
    | .scalar _ _ => fail
    | .mapping _ _ => resolvedEntries source fuel
    | .sequence _ items =>
      let lists ← items.mapM fun item => resolvedEntries item fuel
      return lists.reverse.flatten

def resolvedEntries (id : NodeId) : Nat → Fill (List (NodeId × NodeId))
  | 0 => throw .tooDeep
  | fuel + 1 => do
    match ← node id with
    | .mapping _ _ =>
      resolve id fuel
      entriesOf id
    | _ => fail

end

/-- The text of a scalar, or of the scalar under the equals sign in a mapping. -/
def textOf (id : NodeId) : Nat → Fill Text
  | 0 => throw .tooDeep
  | fuel + 1 => do
    match ← node id with
    | .scalar _ t => return t
    | .sequence _ _ => fail
    | .mapping _ entries =>
      match ← entries.findM? fun entry => hasTag .value entry.1 with
      | some (_, value) => textOf value fuel
      | none => fail

/-- The collection that a node of a kind becomes, still empty. -/
def emptyOf : Tag → Option Content
  | .seq => some (.list [])
  | .pairs => some (.pairs [])
  | .map => some (.map [])
  | .set => some (.set [])
  | _ => none

/-- Settles what a node holds: a scalar at once, a collection when its turn comes. -/
def settleNode (id : NodeId) : Fill Unit := do
  if (← content? id).isNone then
    let n ← node id
    match emptyOf n.tag, n.tag, n with
    | some empty, _, _ =>
      settle id empty
      modify fun s => { s with waiting := id :: s.waiting }
    | none, .merge, _ | none, .value, _ | none, .other, _ => fail
    | none, tag, n =>
      let t ← textOf id ((← get).nodes.size + 1)
      match tag, n with
      | .timestamp, .mapping _ _ => throw .notAText
      | _, _ =>
        match scalarValue tag t with
        | .ok s => settle id (.scalar s)
        | .error fault => throw fault

/-- The scalar that a node holds. Only scalars can be keys. -/
def keyOf (id : NodeId) : Fill Scalar := do
  match ← content? id with
  | some (.scalar s) => return s
  | _ => fail

/-- Sets a key in a mapping. A key that is there keeps its place; nodes are the same key if they are
one node, or if the scalars they hold are the same key. -/
def put (key value : NodeId) : List (NodeId × NodeId) → Fill (List (NodeId × NodeId))
  | [] => return [(key, value)]
  | (k, v) :: rest => do
    if k = key ∨ Scalar.SameKey (← keyOf k) (← keyOf key) then return (k, value) :: rest
    else return (k, v) :: (← put key value rest)

/-- Settles the entries of a mapping, each key before its value; gives them without repetitions. -/
def settleEntries (entries : List (NodeId × NodeId)) : Fill (List (NodeId × NodeId)) :=
  entries.foldlM (fun known (key, value) => do
    settleNode key
    let _ ← keyOf key
    settleNode value
    put key value known) []

/-- The only entry of an item of an ordered mapping. -/
def settlePair (id : NodeId) : Fill (NodeId × NodeId) := do
  match ← node id with
  | .mapping _ [(key, value)] =>
    settleNode key
    settleNode value
    return (key, value)
  | _ => fail

def fill (id : NodeId) : Fill Unit := do
  match (← node id), (← content? id) with
  | .sequence _ items, some (.list _) =>
    items.forM settleNode
    settle id (.list items)
  | .sequence _ items, some (.pairs _) => settle id (.pairs (← items.mapM settlePair))
  | .mapping _ _, some (.map _) =>
    resolve id (← get).bound
    settle id (.map (← settleEntries (← entriesOf id)))
  | .mapping _ _, some (.set _) =>
    resolve id (← get).bound
    settle id (.set ((← settleEntries (← entriesOf id)).map Prod.fst))
  | _, _ => fail

/-- Fills all collections that wait, and those that come to wait meanwhile. -/
def fillAll : Nat → Fill Unit
  | 0 => return ()
  | fuel + 1 => do
    match (← get).waiting.reverse with
    | [] => return ()
    | waiting =>
      modify fun s => { s with waiting := [] }
      waiting.forM fill
      fillAll fuel

end Fill

/-- The contents of the nodes that can be reached from a root. -/
def contentsOf (nodes : Graph) (root : NodeId) : Except Fault (Array (Option Content)) := do
  let entries := nodes.foldl (fun count n =>
    match n with
    | .mapping _ entries => count + entries.length
    | _ => count) 0
  let start : Filling := ⟨nodes, Array.replicate nodes.size none, [], 4 * entries + 4⟩
  let (_, filled) ← (do Fill.settleNode root; Fill.fillAll (nodes.size + 1) : Fill Unit).run start
  return filled.contents

end Yaml
end SearchQuery
