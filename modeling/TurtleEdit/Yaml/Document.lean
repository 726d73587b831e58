import TurtleEdit.Value
import TurtleEdit.Yaml.Node

/-!
What a document stands for: values that may share their parts and hold themselves.

Every collection of a document has one object, named by the number of its node, and whatever stands
for that node refers to it. A value is a tree, so an object is unfolded into one: down from where it
is asked for, up to the places where an object comes again inside itself.
-/

namespace TurtleEdit.Yaml

/-- What a node stands for: a scalar's value or a collection. -/
inductive Item where
  /-- A value, and the node that made it; values without one are the same wherever they stand. -/
  | scalar (value : Value) (source : Option NodeId)
  | object (id : NodeId)
  deriving Repr

/-- The value of a scalar; a collection has none of its own. -/
def Item.ownValue : Item → Value
  | scalar value _ => value
  | object _ => .null

/-- The parts of a collection. -/
inductive Object where
  | list (items : List Item)
  /-- A list of pairs. -/
  | pairs (items : List (Item × Item))
  | mapping (entries : List (Item × Item))
  | set (members : List Item)
  deriving Repr

/-- The value of a document: what its outermost node stands for, and the collections. -/
structure Document where
  root : Item
  objects : List (NodeId × Object)
  deriving Repr

/-- A place that an unfolded value may come back to: a collection, or a pair of a list of pairs. -/
structure Place where
  object : NodeId
  pair : Option Nat
  deriving DecidableEq, Repr

namespace Object

/-- What a collection is to the places inside it. -/
def enclosure : Object → Enclosure
  | list _ | pairs _ => .list
  | mapping _ | set _ => .mapping

/-- How many places a collection has that a value may come back to. -/
def placeCount : Object → Nat
  | pairs items => items.length + 1
  | _ => 1

end Object

namespace Document

/-- How many places a value may come back to, and so how deeply one is unfolded. -/
def placeCount (document : Document) : Nat :=
  document.objects.foldl (fun n entry => n + entry.2.placeCount) 0

/-- Both parts of a pair at a place, unless the place is among those that hold it. -/
def pairValue (place : Place) (path : List Place) (part : List Place → Item → Value)
    (items : Item × Item) : Value :=
  if place ∈ path then .enclosing .tuple
  else .tuple [part (place :: path) items.1, part (place :: path) items.2]

/-- The tree of an item inside the places of `path`, unfolded at most `depth` times. -/
def unfold (document : Document) : (depth : Nat) → (path : List Place) → Item → Value
  | _, _, .scalar value _ => value
  | 0, _, .object _ => .null
  | depth + 1, path, .object id =>
    match document.objects.lookup id with
    | none => .null
    | some object =>
      let place : Place := ⟨id, none⟩
      if place ∈ path then .enclosing object.enclosure
      else
        let inside := place :: path
        match object with
        | .list items => .list (items.map (document.unfold depth inside))
        | .pairs items =>
          .list (items.mapIdx fun n pair =>
            pairValue ⟨id, some n⟩ inside (document.unfold depth) pair)
        | .mapping entries =>
          .mapping (entries.map fun entry =>
            (document.unfold depth inside entry.1, document.unfold depth inside entry.2))
        | .set members => .set (members.map (document.unfold depth inside))

/-- The value of an item, by itself. -/
def value (document : Document) (item : Item) : Value :=
  document.unfold (document.placeCount + 1) [] item

/-- The value of an item whose own items are taken one by one: a list with the value of each of its
items by itself. -/
def spread (document : Document) (item : Item) : Value :=
  match item with
  | .object id =>
    match document.objects.lookup id with
    | some (.list items) => .list (items.map document.value)
    | some (.pairs items) =>
      .list (items.mapIdx fun n pair =>
        pairValue ⟨id, some n⟩ [] (document.unfold (document.placeCount + 1)) pair)
    | _ => document.value item
  | _ => document.value item

/-- The entries of the outermost mapping, if it is one. -/
def entries? (document : Document) : Option (List (Item × Item)) :=
  match document.root with
  | .object id =>
    match document.objects.lookup id with
    | some (.mapping entries) => some entries
    | _ => none
  | _ => none

end Document

end TurtleEdit.Yaml
