import TurtleEdit.Yaml.Document
import TurtleEdit.Yaml.Scalar

/-!
The value of a document, made from its nodes.

A scalar is read as soon as it is met. A collection is only begun then: its parts are made later, in
the order in which the collections were begun, so of several faults the one in the shallower
collection shows first.

The entries of a mapping come in order, and a key that comes again replaces the value of the first;
a collection cannot be a key. Before a mapping is filled, the entries of the mappings merged into it
are put in front of its own, and of several merged in one list the first wins. A mapping merged into
others keeps the entries that were merged into itself.
-/

namespace TurtleEdit.Yaml

/-- How far the making of values has come. -/
structure Builder where
  nodes : Nodes
  /-- What the nodes met so far stand for. -/
  made : List (NodeId × Item)
  /-- The collections begun and not yet filled, in order. -/
  waiting : List NodeId
  objects : List (NodeId × Object)
  deriving Repr

/-- Making values from nodes. -/
abbrev Build := StateT Builder (Except Fault)

namespace Build

/-- The document breaks a rule. -/
def fail {α : Type} : Build α := throw .malformed

/-- The node with a number. -/
def nodeAt (id : NodeId) : Build Node := do
  match (← get).nodes[id]? with
  | some node => return node
  | none => fail

/-- The entries of a mapping. -/
def entriesOf (id : NodeId) : Build (List (NodeId × NodeId)) := do
  match (← nodeAt id).content with
  | .mapping entries => return entries
  | _ => fail

/-- Gives a mapping other entries. -/
def setEntries (id : NodeId) (entries : List (NodeId × NodeId)) : Build Unit :=
  modify fun builder =>
    { builder with nodes := builder.nodes.modify id fun node =>
        { node with content := .mapping entries } }

/-! ## Scalars -/

/-- The code points of a scalar. A mapping may stand for one: then its default value does, where the
entries lead from node to node. A path that is longer than there are nodes has no end. -/
def scalarCodes (id : NodeId) : Nat → Build Codes
  | 0 => throw .tooDeep
  | bound + 1 => do
    match (← nodeAt id).content with
    | .scalar codes => return codes
    | .sequence _ => fail
    | .mapping entries =>
      let nodes := (← get).nodes
      match entries.find? fun entry => nodes[entry.1]?.any (·.kind == .equals) with
      | some (_, value) => scalarCodes value bound
      | none => fail

/-- The value of a node as a scalar of its kind. -/
def scalarItem (id : NodeId) (node : Node) : Build Item := do
  let codes ← scalarCodes id ((← get).nodes.size + 1)
  match node.kind, node.content with
  | .timestamp, .mapping _ => throw .notScalar
  | kind, _ =>
    let value ← scalarValue kind codes
    return .scalar value (if kind = .float ∧ isNanWord codes then none else some id)

/-! ## Items -/

/-- What a node stands for; a collection is put in the line of those to be filled. -/
def item (id : NodeId) : Build Item := do
  match (← get).made.lookup id with
  | some made => return made
  | none =>
    let node ← nodeAt id
    match node.kind with
    | .null | .bool | .int | .float | .binary | .timestamp | .str =>
      let made ← scalarItem id node
      modify fun builder => { builder with made := (id, made) :: builder.made }
      return made
    | .seq | .map | .set | .omap | .pairs =>
      modify fun builder =>
        { builder with
          made := (id, .object id) :: builder.made
          waiting := builder.waiting ++ [id] }
      return .object id
    | .merge | .equals | .unknown => fail

/-! ## Merging -/

/-- Keys of default values are plain texts in a mapping that is one. -/
def settleKeys (entries : List (NodeId × NodeId)) : Build Unit :=
  modify fun builder =>
    { builder with nodes := entries.foldl (fun nodes entry =>
        nodes.modify entry.1 fun node =>
          if node.kind = .equals then { node with kind := .str } else node) builder.nodes }

/-- The value of the first entry that merges, and the entries without it. -/
def firstMerge? (nodes : Nodes) : List (NodeId × NodeId) →
    Option (NodeId × List (NodeId × NodeId))
  | [] => none
  | entry :: entries =>
    if nodes[entry.1]?.any (·.kind == .merge) then some (entry.2, entries)
    else (firstMerge? nodes entries).map fun (value, rest) => (value, entry :: rest)

/-- Puts the entries of merged mappings in front of those of a mapping, after `merged`, which come
from its earlier merging entries. An entry that merges is taken out before its mappings are looked
at, so a mapping merged into itself gives the entries it has then, and `bound`, the number of
entries of all mappings, is enough. -/
def flatten (id : NodeId) (merged : List (NodeId × NodeId)) : Nat → Build Unit
  | 0 => fail
  | bound + 1 => do
    let entries ← entriesOf id
    settleKeys entries
    match firstMerge? (← get).nodes entries with
    | none => setEntries id (merged ++ entries)
    | some (value, rest) =>
      setEntries id rest
      match (← nodeAt value).content with
      | .mapping _ =>
        flatten value [] bound
        let more ← entriesOf value
        flatten id (merged ++ more) bound
      | .sequence items =>
        let sources ← items.mapM fun source => do
          discard (entriesOf source)
          flatten source [] bound
          entriesOf source
        flatten id (merged ++ sources.reverse.flatten) bound
      | .scalar _ => fail

/-- How many entries the mappings have together. -/
def entryCount (nodes : Nodes) : Nat :=
  nodes.foldl (fun n node =>
    match node.content with
    | .mapping entries => n + entries.length
    | _ => n) 0

/-! ## Collections -/

/-- Two items are one key. A value that is no number is one key only with itself. -/
def sameKey (a b : Item) : Bool :=
  match a, b with
  | .scalar (.float .nan) m, .scalar (.float .nan) n => m == n
  | .scalar v _, .scalar w _ => v.sameKey w
  | _, _ => false

/-- The entries with the value of a key replaced, or with the key put at the end. -/
def insert (key value : Item) : List (Item × Item) → List (Item × Item)
  | [] => [(key, value)]
  | (k, v) :: entries =>
    if sameKey k key then (k, value) :: entries else (k, v) :: insert key value entries

/-- The entries of a mapping, made in order: a key, which may not be a collection, and its value. -/
def mappingItems (id : NodeId) : Build (List (Item × Item)) := do
  match (← nodeAt id).content with
  | .mapping _ =>
    flatten id [] (entryCount (← get).nodes + 1)
    (← entriesOf id).foldlM (fun made entry => do
      let key ← item entry.1
      if let .object _ := key then fail
      let value ← item entry.2
      return insert key value made) []
  | _ => fail

/-- The pairs of a sequence of mappings with one entry each, made in order. -/
def pairItems (id : NodeId) : Build (List (Item × Item)) := do
  match (← nodeAt id).content with
  | .sequence items =>
    items.mapM fun source => do
      match ← entriesOf source with
      | [(key, value)] => return (← item key, ← item value)
      | _ => fail
  | _ => fail

/-- Makes the parts of a collection. -/
def fill (id : NodeId) : Build Unit := do
  let object ← match (← nodeAt id).kind, (← nodeAt id).content with
    | .seq, .sequence items => Object.list <$> items.mapM item
    | .omap, _ | .pairs, _ => Object.pairs <$> pairItems id
    | .map, _ => Object.mapping <$> mappingItems id
    | .set, _ => do
      let entries ← mappingItems id
      pure (Object.set (Value.arranged Item.ownValue (entries.map Prod.fst)))
    | _, _ => fail
  modify fun builder => { builder with objects := (id, object) :: builder.objects }

/-- Fills the collections that wait, and those begun meanwhile. Each node is begun once. -/
def fillAll : Nat → Build Unit
  | 0 => return
  | bound + 1 => do
    match (← get).waiting with
    | [] => return
    | id :: rest =>
      modify fun builder => { builder with waiting := rest }
      fill id
      fillAll bound

end Build

/-- The value of the nodes of a document. -/
def Document.ofNodes (root : NodeId) (nodes : Nodes) : Except Fault Document := do
  let build : Build Item := do
    let item ← Build.item root
    Build.fillAll nodes.size
    return item
  let (item, builder) ← build.run ⟨nodes, [], [], []⟩
  return ⟨item, builder.objects⟩

/-- The value of a text; a text without a document has none to give. -/
def load (text : Text) : Except Fault Document := do
  match ← parse text with
  | some (root, nodes) => Document.ofNodes root nodes
  | none => return ⟨.scalar .null none, []⟩

end TurtleEdit.Yaml
