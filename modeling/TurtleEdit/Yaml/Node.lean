import TurtleEdit.Yaml.Kind
import TurtleEdit.Yaml.Token.Scan

/-!
The nodes of a document.

A node is a scalar, a sequence or a mapping, and each names the kind of value it is. Where the
document gives no tag, the kind of a scalar follows from its text. The nodes of a document are
numbered, and a collection holds the numbers of its parts; an alias gives the number of the node
with its anchor once more, so that a node may stand in several places, also inside itself.

Reading goes down the tokens once. Each function takes the tokens that are left and gives back
those after what it read; a bound on the number of calls, larger than any document needs, makes
them total.
-/

namespace TurtleEdit.Yaml

/-- The number of a node of a document. -/
abbrev NodeId := Nat

/-- What a node holds. -/
inductive Content where
  | scalar (codes : Codes)
  | sequence (items : List NodeId)
  | mapping (entries : List (NodeId × NodeId))
  deriving DecidableEq, Repr

/-- A node of a document. -/
structure Node where
  kind : Kind
  content : Content
  deriving DecidableEq, Repr

/-- The nodes of a document by their numbers. -/
abbrev Nodes := Array Node

/-- How far the reading of nodes has come. -/
structure Composer where
  scanner : Scanner
  handles : List (Text × Text)
  /-- The nodes by their anchors. -/
  anchors : List (Text × NodeId)
  nodes : Nodes
  /-- How many collections hold the place. -/
  depth : Nat
  deriving Repr

/-- Reading nodes from tokens. -/
abbrev Compose := StateT Composer (Except Fault)

/-- How deeply collections may stand in each other. -/
def deepest : Nat := 484

namespace Compose

/-- The next token, which stays. -/
def peek : Compose Token := do
  let state ← get
  let (token, scanner) ← state.scanner.next
  set { state with scanner }
  return token

/-- Passes the next token. -/
def pass : Compose Unit := modify fun state => { state with scanner := state.scanner.take }

/-- The document breaks a rule. -/
def fail {α : Type} : Compose α := throw .malformed

/-- Passes the token if it is the next one, and tells whether it was. -/
def accept (token : Token) : Compose Bool := do
  if (← peek) = token then
    pass
    return true
  else return false

/-- One more node. -/
def addNode (node : Node) : Compose NodeId :=
  modifyGet fun state => (state.nodes.size, { state with nodes := state.nodes.push node })

/-- Gives a node its parts. -/
def fillNode (id : NodeId) (content : Content) : Compose Unit :=
  modify fun state =>
    { state with nodes := state.nodes.modify id fun node => { node with content } }

end Compose

open Compose

/-! ## Properties of nodes -/

/-- The anchor and the tag before a node. -/
structure Properties where
  anchor : Option Text
  tag : Option Text
  deriving Repr

/-- The tag without its handle. -/
def resolveTag (handle : Option Text) (suffix : Text) : Compose Text := do
  match handle with
  | none => return suffix
  | some handle =>
    match (← get).handles.lookup handle with
    | some target => return target ++ suffix
    | none => fail

/-- The anchor and the tag at the next token, in either order. -/
def properties : Compose Properties := do
  match ← peek with
  | .anchor anchor =>
    pass
    match ← peek with
    | .tag handle suffix =>
      pass
      return ⟨some anchor, some (← resolveTag handle suffix)⟩
    | _ => return ⟨some anchor, none⟩
  | .tag handle suffix =>
    pass
    match ← peek with
    | .anchor anchor =>
      pass
      return ⟨some anchor, some (← resolveTag handle suffix)⟩
    | _ => return ⟨none, some (← resolveTag handle suffix)⟩
  | _ => return ⟨none, none⟩

/-- The kind of a node that is `standard` where no tag says otherwise. -/
def Properties.kind (properties : Properties) (standard : Kind) : Kind :=
  match properties.tag with
  | none => standard
  | some tag => if tag = ['!'] then standard else .ofTag tag

/-- Gives an anchor to a node. An anchor may be given once. -/
def giveAnchor (anchor : Option Text) (id : NodeId) : Compose Unit := do
  if let some name := anchor then
    if ((← get).anchors.lookup name).isSome then fail
    modify fun state => { state with anchors := (name, id) :: state.anchors }

/-- The node of an alias. -/
def aliased (name : Text) : Compose NodeId := do
  match (← get).anchors.lookup name with
  | some id => return id
  | none => fail

/-- The scalar of a text. Its kind follows from the text if it is plain or its tag leaves that
open. -/
def scalarNode (properties : Properties) (codes : Codes) (plain : Bool) : Compose NodeId := do
  let implied := if plain || properties.tag.isSome then impliedKind codes else .str
  let id ← addNode ⟨properties.kind implied, .scalar codes⟩
  giveAnchor properties.anchor id
  return id

/-- A missing node: an empty plain scalar. -/
def emptyNode : Compose NodeId := addNode ⟨impliedKind [], .scalar []⟩

/-- A node that is missing after its properties; without properties the document is broken. -/
def missing (properties : Properties) : Compose NodeId :=
  if properties.anchor.isNone && properties.tag.isNone then fail
  else scalarNode properties [] true

/-- The collection whose parts `parts` reads. It has its anchor before its parts are read. -/
def collection (properties : Properties) (standard : Kind) (parts : Compose Content) :
    Compose NodeId := do
  let id ← addNode ⟨properties.kind standard, .scalar []⟩
  giveAnchor properties.anchor id
  if deepest ≤ (← get).depth then throw .tooDeep
  modify fun state => { state with depth := state.depth + 1 }
  let content ← parts
  modify fun state => { state with depth := state.depth - 1 }
  fillNode id content
  return id

/-- The sequence whose items `items` reads. -/
def sequenceNode (properties : Properties) (items : Compose (List NodeId)) : Compose NodeId :=
  collection properties .seq (.sequence <$> items)

/-- The mapping whose entries `entries` reads. -/
def mappingNode (properties : Properties) (entries : Compose (List (NodeId × NodeId))) :
    Compose NodeId :=
  collection properties .map (.mapping <$> entries)

/-! ## Nodes -/

mutual

/-- A node. Block collections are read only where `block` says so, and a sequence without
indentation of its own only where `indentless` does. -/
def node (block indentless : Bool) : Nat → Compose NodeId
  | 0 => fail
  | bound + 1 => do
    if let .alias name ← peek then
      pass
      aliased name
    else
      let properties ← properties
      match ← peek with
      | .scalar codes plain =>
        pass
        scalarNode properties codes plain
      | .flowSequenceStart =>
        pass
        sequenceNode properties (flowItems true bound)
      | .flowMappingStart =>
        pass
        mappingNode properties (flowEntries true bound)
      | .blockEntry =>
        if indentless then sequenceNode properties (indentlessItems bound)
        else missing properties
      | .blockSequenceStart =>
        if block then
          pass
          sequenceNode properties (blockItems bound)
        else missing properties
      | .blockMappingStart =>
        if block then
          pass
          mappingNode properties (blockEntries bound)
        else missing properties
      | _ => missing properties

/-- The items of a block sequence, up to and with its end. -/
def blockItems : Nat → Compose (List NodeId)
  | 0 => fail
  | bound + 1 => do
    match ← peek with
    | .blockEntry =>
      pass
      let item ← match ← peek with
        | .blockEntry | .blockEnd => emptyNode
        | _ => node true false bound
      return item :: (← blockItems bound)
    | .blockEnd =>
      pass
      return []
    | _ => fail

/-- The items of a sequence without indentation of its own. -/
def indentlessItems : Nat → Compose (List NodeId)
  | 0 => fail
  | bound + 1 => do
    match ← peek with
    | .blockEntry =>
      pass
      let item ← match ← peek with
        | .blockEntry | .key | .value | .blockEnd => emptyNode
        | _ => node true false bound
      return item :: (← indentlessItems bound)
    | _ => return []

/-- A key or a value of a block mapping, after its mark. -/
def blockPart : Nat → Compose NodeId
  | 0 => fail
  | bound + 1 => do
    match ← peek with
    | .key | .value | .blockEnd => emptyNode
    | _ => node true true bound

/-- The entries of a block mapping, up to and with its end. -/
def blockEntries : Nat → Compose (List (NodeId × NodeId))
  | 0 => fail
  | bound + 1 => do
    match ← peek with
    | .key =>
      pass
      let key ← blockPart bound
      let value ← if ← accept .value then blockPart bound else emptyNode
      return (key, value) :: (← blockEntries bound)
    | .blockEnd =>
      pass
      return []
    | _ => fail

/-- The items of a flow sequence, up to and with its end. -/
def flowItems (first : Bool) : Nat → Compose (List NodeId)
  | 0 => fail
  | bound + 1 => do
    if ← accept .flowSequenceEnd then return []
    else
      if !first then
        if !(← accept .flowEntry) then fail
      match ← peek with
      | .flowSequenceEnd =>
        pass
        return []
      | .key =>
        let item ← mappingNode ⟨none, none⟩ do
          pass
          let key ← match ← peek with
            | .value | .flowEntry | .flowSequenceEnd => emptyNode
            | _ => node false false bound
          let value ← if ← accept .value then
              match ← peek with
              | .flowEntry | .flowSequenceEnd => emptyNode
              | _ => node false false bound
            else emptyNode
          return [(key, value)]
        return item :: (← flowItems false bound)
      | _ =>
        let item ← node false false bound
        return item :: (← flowItems false bound)

/-- The entries of a flow mapping, up to and with its end. -/
def flowEntries (first : Bool) : Nat → Compose (List (NodeId × NodeId))
  | 0 => fail
  | bound + 1 => do
    if ← accept .flowMappingEnd then return []
    else
      if !first then
        if !(← accept .flowEntry) then fail
      match ← peek with
      | .flowMappingEnd =>
        pass
        return []
      | .key =>
        pass
        let key ← match ← peek with
          | .value | .flowEntry | .flowMappingEnd => emptyNode
          | _ => node false false bound
        let value ← if ← accept .value then
            match ← peek with
            | .flowEntry | .flowMappingEnd => emptyNode
            | _ => node false false bound
          else emptyNode
        return (key, value) :: (← flowEntries false bound)
      | _ =>
        let key ← node false false bound
        return (key, ← emptyNode) :: (← flowEntries false bound)

end

/-! ## Documents -/

/-- The handles that every document has. -/
def standardHandles : List (Text × Text) := [(['!'], ['!']), (['!', '!'], standardTag)]

/-- The directives before a document; each may be given once. -/
def directives (versioned : Bool) (handles : List (Text × Text)) : Nat → Compose Unit
  | 0 => fail
  | bound + 1 => do
    match ← peek with
    | .directive (.version major) =>
      if versioned || major != 1 then fail
      pass
      directives true handles bound
    | .directive (.tagHandle handle target) =>
      if (handles.lookup handle).isSome then fail
      pass
      directives versioned ((handle, target) :: handles) bound
    | .directive .other =>
      pass
      directives versioned handles bound
    | _ => modify fun state => { state with handles := handles ++ standardHandles }

/-- Passes the marks of ended documents. -/
def passEnds : Nat → Compose Unit
  | 0 => return
  | bound + 1 => do
    if ← accept .documentEnd then passEnds bound

/-- The only document of a text, or nothing if it has none. Directives after it are read although
nothing can follow them. -/
def document (bound : Nat) : Compose (Option NodeId) := do
  let root ← match ← peek with
    | .streamEnd => return none
    | .directive _ | .documentStart =>
      directives false [] bound
      if !(← accept .documentStart) then fail
      match ← peek with
      | .directive _ | .documentStart | .documentEnd | .streamEnd => emptyNode
      | _ => node true false bound
    | _ => node true false bound
  passEnds bound
  if (← peek) = .streamEnd then return some root
  else
    directives false [] bound
    fail

/-- The nodes of a text and the number of the outermost, or nothing if it holds no document. -/
def parse (text : Text) : Except Fault (Option (NodeId × Nodes)) := do
  let scanner ← Scanner.ofText text
  let (root, state) ← (document (8 * text.length + 64)).run ⟨scanner, standardHandles, [], #[], 0⟩
  return root.map (·, state.nodes)

end TurtleEdit.Yaml
