import Marginalia.Forest
import Marginalia.Node

/-!
# The annotation tree

Nodes are numbered as they are attached; node 0 is the root. A tree keeps for each number the node,
the number above it and the numbers below it in order, and it remembers the node attached last.

* `append` attaches a node below a given one, `insert` below the one that its index asks for.
* `placement` climbs from the last node: a deeper index goes below it; otherwise the new node
  becomes the sibling of the nearest node above that is not deeper.
* `descendants` walks the nodes below a node with a stack, `forestBelow` reads them off as a forest.
-/

namespace Marginalia

/-- A node with its place in the tree. -/
structure Slot where
  /-- The data of the node. -/
  node : Node := {}
  /-- The number of the node above; none for the root. -/
  parent : Option Nat := none
  /-- The numbers of the nodes below, in order. -/
  children : List Nat := []
deriving DecidableEq, Repr, Inhabited

/-- Nodes in the order of their attachment, the root first. -/
structure Tree where
  /-- The slots by number. -/
  slots : Array Slot := #[{}]
  /-- The number of the node attached last. -/
  last : Nat := 0
deriving DecidableEq, Repr, Inhabited

namespace Tree

/-- The tree with a root only. -/
def empty : Tree := {}

/-- The number of the root. -/
def root : Nat := 0

/-- The number of nodes, the root among them. -/
def size (t : Tree) : Nat := t.slots.size

/-- The slot with number `id`; an empty one if there is none. -/
def slot (t : Tree) (id : Nat) : Slot := t.slots[id]?.getD {}

/-- The data of a node. -/
def get (t : Tree) (id : Nat) : Node := (t.slot id).node

/-- The number of the node above. -/
def parent? (t : Tree) (id : Nat) : Option Nat := (t.slot id).parent

/-- The numbers of the nodes directly below, in order. -/
def children (t : Tree) (id : Nat) : List Nat := (t.slot id).children

/-- Nothing hangs below the root. -/
def isEmpty (t : Tree) : Bool := (t.children root).isEmpty

/-- Replaces the data of a node. -/
def set (t : Tree) (id : Nat) (node : Node) : Tree :=
  { t with slots := t.slots.modify id fun s => { s with node := node } }

/-- Takes everything below a node away from it. -/
def clearChildren (t : Tree) (id : Nat) : Tree :=
  { t with slots := t.slots.modify id fun s => { s with children := [] } }

/-! ### Attaching nodes -/

/-- Attaches a node as the last one below `under`. It records the line of the node above it. -/
def append (t : Tree) (under : Nat) (node : Node) : Tree :=
  let id := t.size
  let slot : Slot := { node := { node with parent := (t.get under).line }, parent := some under }
  { slots := (t.slots.push slot).modify under fun s => { s with children := s.children ++ [id] }
    last := id }

/-- The node `id` and those above it, at most `n` of the latter. -/
def ancestorsWithin (t : Tree) : Nat → Nat → List Nat
  | 0, id => [id]
  | n + 1, id => id :: match t.parent? id with
    | some above => t.ancestorsWithin n above
    | none => []

/-- The node `id` and those above it, from `id` up. A node above has a smaller number, so there are
at most `id` of them. -/
def ancestors (t : Tree) (id : Nat) : List Nat := t.ancestorsWithin id id

/-- The number of steps from a node up to the root. -/
def depth (t : Tree) (id : Nat) : Nat := (t.ancestors id).length - 1

/-- The node that a new node with this index goes below. -/
def placement (t : Tree) (index : Int) : Nat :=
  if t.last = root ∨ (t.get t.last).index < index then t.last
  else
    let chain := t.ancestors t.last
    match chain.find? fun id => (t.parent? id).isSome && (t.get id).index ≤ index with
    | some id => (t.parent? id).getD root
    | none => chain.getLast?.getD root

/-- Attaches a node where its index asks for. -/
def insert (t : Tree) (node : Node) : Tree := t.append (t.placement node.index) node

/-- The nearest node from the last one upward that collects plain lines. -/
def appendingTarget (t : Tree) : Option Nat :=
  (t.ancestors t.last).find? fun id => (t.get id).appending

/-! ### Walking the tree -/

/-- The first `n` nodes met when the stack is worked off, each node replaced by those below it. -/
def visit (t : Tree) : Nat → List Nat → List Nat
  | 0, _ => []
  | _ + 1, [] => []
  | n + 1, id :: stack => id :: t.visit n (t.children id ++ stack)

/-- The nodes below `id` in pre-order. No node is met twice, so there are fewer than `size`. -/
def descendants (t : Tree) (id : Nat) : List Nat := t.visit t.size (t.children id)

/-- The trees whose roots are `ids`, with paths of at most `n` nodes. -/
def forestWithin (t : Tree) : Nat → List Nat → Forest Nat
  | 0, _ => .nil
  | _ + 1, [] => .nil
  | n + 1, id :: ids => .cons id (t.forestWithin n (t.children id)) (t.forestWithin n ids)

/-- The numbers below `id` as a forest. -/
def numbersBelow (t : Tree) (id : Nat) : Forest Nat := t.forestWithin t.size (t.children id)

/-- The nodes below `id` as a forest. -/
def forestBelow (t : Tree) (id : Nat) : Forest Node := (t.numbersBelow id).map t.get

/-- All nodes below the root as a forest. -/
def forest (t : Tree) : Forest Node := t.forestBelow root

/-- The first of the nonempty keywords that some node below the root has. -/
def findKeyword (t : Tree) (keywords : List Text) : Option Text :=
  (keywords.filter (!·.isEmpty)).find? fun k =>
    (t.descendants root).any fun id => (t.get id).keyword == k

end Tree

end Marginalia
