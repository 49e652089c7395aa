import SearchQuery.Yaml.Schema
import SearchQuery.Yaml.Tokenizing

/-!
# Nodes

The nodes of a document: scalars, sequences and mappings, each with its kind. Nodes are numbered,
and a collection holds the numbers of its parts. So an alias stands for the very node that its
anchor names, and a collection may hold itself.
-/

namespace SearchQuery
namespace Yaml

abbrev NodeId := Nat

inductive Node where
  | scalar (tag : Tag) (text : Text)
  | sequence (tag : Tag) (items : List NodeId)
  | mapping (tag : Tag) (entries : List (NodeId × NodeId))
  deriving DecidableEq, Repr

abbrev Graph := Array Node

/-- The tokens still to be read, what the handles of tags stand for, the nodes so far, and those
with anchors. -/
structure Reading where
  stream : TokenStream
  handles : List (Text × Text)
  nodes : Graph
  anchors : List (Text × NodeId)

abbrev Read := StateT Reading (Except Fault)

namespace Read

/-- The next token. Where tokens end in a fault, asking for one more is the failure. -/
def peek : Read (Option Token) := do
  let stream := (← get).stream
  match stream.tokens, stream.fault with
  | t :: _, _ => return some t
  | [], some fault => throw fault
  | [], none => return none

def skip : Read Unit :=
  modify fun r => { r with stream := { r.stream with tokens := r.stream.tokens.drop 1 } }

def fail {α : Type} : Read α := throw .malformed

def isNext (ts : List Token) : Read Bool := do
  match ← peek with
  | some t => return ts.contains t
  | none => return false

def expect (t : Token) : Read Unit := do
  if ← isNext [t] then skip else fail

/-- Adds a node; gives its number. -/
def add (n : Node) : Read NodeId := do
  let id := (← get).nodes.size
  modify fun r => { r with nodes := r.nodes.push n }
  return id

def replace (id : NodeId) (n : Node) : Read Unit :=
  modify fun r => { r with nodes := r.nodes.setIfInBounds id n }

def nothing : Read NodeId := add (.scalar .null [])

/-- The full name of a tag. -/
def uriOf (t : WrittenTag) : Read Text := do
  match t.handle with
  | none => return t.suffix
  | some handle =>
    match (← get).handles.lookup handle with
    | some stem => return stem ++ t.suffix
    | none => fail

/-- An anchor and a tag, in either order, each of which may be missing. -/
def properties : Read (Option Text × Option Text) := do
  match ← peek with
  | some (.anchor name) =>
    skip
    match ← peek with
    | some (.tag t) =>
      skip
      return (some name, some (← uriOf t))
    | _ => return (some name, none)
  | some (.tag t) =>
    skip
    match ← peek with
    | some (.anchor name) =>
      skip
      return (some name, some (← uriOf t))
    | _ => return (none, some (← uriOf t))
  | _ => return (none, none)

/-- A tag that leaves the kind of a node open. -/
def isOpenTag (tag : Option Text) : Bool := tag.all (· == ['!'])

def collectionTag (tag : Option Text) (default : Tag) : Tag :=
  if isOpenTag tag then default else (tag.map Tag.ofUri).getD default

/-- The kind of a scalar. Without a tag, a quoted scalar is a text. -/
def scalarTag (tag : Option Text) (plain : Bool) (t : Text) : Tag :=
  match tag with
  | none => if plain then resolve t else .str
  | some uri => if uri = "!" then resolve t else Tag.ofUri uri

/-- Notes the node of an anchor. -/
def note (anchor : Option Text) (id : NodeId) : Read Unit :=
  match anchor with
  | none => return ()
  | some name => modify fun r => { r with anchors := (name, id) :: r.anchors }

/-- A node with its anchor. Each name may be an anchor once. -/
def anchored (anchor : Option Text) (n : Node) : Read NodeId := do
  let known := (← get).anchors
  if anchor.any fun name => (known.lookup name).isSome then fail
  else
    let id ← add n
    note anchor id
    return id

/-- A sequence whose items are read after its anchor is noted. -/
def sequence (anchor : Option Text) (tag : Tag) (items : Read (List NodeId)) : Read NodeId := do
  let id ← anchored anchor (.sequence tag [])
  replace id (.sequence tag (← items))
  return id

/-- A mapping whose entries are read after its anchor is noted. -/
def mapping (anchor : Option Text) (tag : Tag) (entries : Read (List (NodeId × NodeId))) :
    Read NodeId := do
  let id ← anchored anchor (.mapping tag [])
  replace id (.mapping tag (← entries))
  return id

/-- The most levels of nodes in a document. -/
def greatestDepth : Nat := 487

mutual

/-- Reads a node that is `depth` levels deep. Blocks are allowed if `block` is set, and entries of a
sequence that is not indented if `loose` is set. -/
def node (depth : Nat) (block loose : Bool) : Nat → Read NodeId
  | 0 => fail
  | fuel + 1 => do
    if depth > greatestDepth then throw .tooDeep
    match ← peek with
    | some (.alias name) =>
      skip
      match (← get).anchors.lookup name with
      | some id => return id
      | none => fail
    | _ =>
      let (anchor, tag) ← properties
      let seqTag := collectionTag tag .seq
      let mapTag := collectionTag tag .map
      match ← peek, block, loose with
      | some .blockEntry, _, true => sequence anchor seqTag (looseItems depth fuel)
      | some (.scalar t plain), _, _ =>
        skip
        anchored anchor (.scalar (scalarTag tag plain t) t)
      | some .flowSequenceStart, _, _ =>
        sequence anchor seqTag (do skip; flowItems depth true fuel)
      | some .flowMappingStart, _, _ =>
        mapping anchor mapTag (do skip; flowEntries depth true fuel)
      | some .blockSequenceStart, true, _ =>
        sequence anchor seqTag (do skip; blockItems depth fuel)
      | some .blockMappingStart, true, _ =>
        mapping anchor mapTag (do skip; blockEntries depth fuel)
      | _, _, _ =>
        if anchor.isSome || tag.isSome then anchored anchor (.scalar (scalarTag tag true []) [])
        else fail
termination_by structural fuel => fuel

/-- The items of a sequence in a block of its own. -/
def blockItems (depth : Nat) : Nat → Read (List NodeId)
  | 0 => fail
  | fuel + 1 => do
    if ← isNext [.blockEntry] then
      skip
      let item ←
        if ← isNext [.blockEntry, .blockEnd] then nothing else node (depth + 1) true false fuel
      let rest ← blockItems depth fuel
      return item :: rest
    else
      expect .blockEnd
      return []
termination_by structural fuel => fuel

/-- The items of a sequence at the indentation of the mapping around it. -/
def looseItems (depth : Nat) : Nat → Read (List NodeId)
  | 0 => fail
  | fuel + 1 => do
    if ← isNext [.blockEntry] then
      skip
      let item ←
        if ← isNext [.blockEntry, .key, .value, .blockEnd] then nothing
        else node (depth + 1) true false fuel
      let rest ← looseItems depth fuel
      return item :: rest
    else return []
termination_by structural fuel => fuel

/-- The entries of a mapping in a block. -/
def blockEntries (depth : Nat) : Nat → Read (List (NodeId × NodeId))
  | 0 => fail
  | fuel + 1 => do
    if ← isNext [.key] then
      skip
      let key ←
        if ← isNext [.key, .value, .blockEnd] then nothing
        else node (depth + 1) true true fuel
      let value ←
        if ← isNext [.value] then do
          skip
          if ← isNext [.key, .value, .blockEnd] then nothing
          else node (depth + 1) true true fuel
        else nothing
      let rest ← blockEntries depth fuel
      return (key, value) :: rest
    else
      expect .blockEnd
      return []
termination_by structural fuel => fuel

/-- A key and its value between brackets, where `closing` is the bracket that ends the
collection. -/
def flowEntry (depth : Nat) (closing : Token) : Nat → Read (NodeId × NodeId)
  | 0 => fail
  | fuel + 1 => do
    skip
    let key ←
      if ← isNext [.value, .flowEntry, closing] then nothing
      else node (depth + 1) false false fuel
    let value ←
      if ← isNext [.value] then do
        skip
        if ← isNext [.flowEntry, closing] then nothing else node (depth + 1) false false fuel
      else nothing
    return (key, value)
termination_by structural fuel => fuel

/-- The items between square brackets. An item may be a mapping of one entry without brackets. -/
def flowItems (depth : Nat) (first : Bool) : Nat → Read (List NodeId)
  | 0 => fail
  | fuel + 1 => do
    if ← isNext [.flowSequenceEnd] then
      skip
      return []
    else
      if !first then expect .flowEntry
      if ← isNext [.flowSequenceEnd] then
        skip
        return []
      else
        let item ←
          if ← isNext [.key] then
            mapping none .map (do return [← flowEntry (depth + 1) .flowSequenceEnd fuel])
          else node (depth + 1) false false fuel
        let rest ← flowItems depth false fuel
        return item :: rest
termination_by structural fuel => fuel

/-- The entries between braces. A key may stand without a value. -/
def flowEntries (depth : Nat) (first : Bool) : Nat → Read (List (NodeId × NodeId))
  | 0 => fail
  | fuel + 1 => do
    if ← isNext [.flowMappingEnd] then
      skip
      return []
    else
      if !first then expect .flowEntry
      if ← isNext [.flowMappingEnd] then
        skip
        return []
      else
        let entry ←
          if ← isNext [.key] then flowEntry depth .flowMappingEnd fuel
          else do
            let key ← node (depth + 1) false false fuel
            pure (key, ← nothing)
        let rest ← flowEntries depth false fuel
        return entry :: rest
termination_by structural fuel => fuel

end

/-- Reads directives; each handle may be set once, and only one version may be named. -/
def directives (versioned : Bool) (handles : List (Text × Text)) : Nat → Read (List (Text × Text))
  | 0 => fail
  | fuel + 1 => do
    match ← peek with
    | some (.version major) =>
      skip
      if versioned || major ≠ 1 then fail else directives true handles fuel
    | some (.tagHandle handle stem) =>
      skip
      if (handles.lookup handle).isSome then fail
      else directives versioned ((handle, stem) :: handles) fuel
    | some .reservedDirective =>
      skip
      directives versioned handles fuel
    | _ => return handles

/-- What the two handles stand for that need no directive. -/
def defaultHandles : List (Text × Text) := [("!", "!"), ("!!", Tag.authority)]

def skipEnds : Nat → Read Unit
  | 0 => return ()
  | fuel + 1 => do
    if ← isNext [.documentEnd] then
      skip
      skipEnds fuel
    else return ()

/-- Whether the next token stands in front of a document or after it. -/
def isOutside : Read Bool := do
  match ← peek with
  | some (.version _) | some (.tagHandle _ _) | some .reservedDirective => return true
  | _ => isNext [.documentStart, .documentEnd, .streamEnd]

/-- The root of the only document of a text, or nothing if the text has none. -/
def document (fuel : Nat) : Read (Option NodeId) := do
  let bare := !(← isOutside) || (← isNext [.documentEnd])
  if bare then
    modify fun r => { r with handles := defaultHandles }
    let root ← node 1 true false fuel
    atEnd
    return some root
  else
    if ← isNext [.streamEnd] then return none
    else
      let handles ← directives false [] fuel
      modify fun r => { r with handles := handles ++ defaultHandles }
      expect .documentStart
      let root ← if ← isOutside then nothing else node 1 true false fuel
      atEnd
      return some root
where
  /-- Nothing but the end may follow; the directives of a further document are read before it is
  refused. -/
  atEnd : Read Unit := do
    skipEnds fuel
    if ← isNext [.streamEnd] then skip
    else
      let _ ← directives false [] fuel
      let _ ← peek
      fail

end Read

/-- The nodes of the only document of a text, and its root, if there is a document. -/
def Graph.ofText (t : Text) : Except Fault (Graph × Option NodeId) := do
  let stream := tokens t
  let (root, reading) ←
    (Read.document (3 * stream.tokens.length + 8)).run ⟨stream, [], #[], []⟩
  return (reading.nodes, root)

end Yaml
end SearchQuery
