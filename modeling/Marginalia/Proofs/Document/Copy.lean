import Marginalia.Document
import Marginalia.Proofs.Tree.Built

/-!
# Documents copy trees

A document is read off its tree by recursion, while the nodes of the tree are met by working off a
stack. The stack says by itself when the walk ends (`Walks`): in a hung tree it does, after the very
nodes that `descendants` lists (`walks_iff`), and these are each child followed by what is below it
(`descendants_eq_flatMap`). No node is met twice, so the walk ends where nodes have been taken away
as well.

A recursive reading that starts below a node meets every node at its depth
(`Spans.preorderFrom_eq`). So the entries of a document, listed with their depth, are the nodes that
the walk meets (`preorder_ofTree`).
-/

namespace Marginalia

theorem Forest.preorderFrom_map {α β : Type} (g : α → β) (F : Forest α) (depth : Nat) :
    (F.map g).preorderFrom depth = (F.preorderFrom depth).map fun p => (p.1, g p.2) := by
  induction F generalizing depth with
  | nil => rfl
  | cons a under rest ihu ihr =>
    rw [map, preorderFrom, preorderFrom, ihu, ihr, List.map_append, List.map_cons]

namespace Tree

variable {t : Tree} {id p : Nat} {ids stack met met' : List Nat} {F : Forest Nat}

/-! ### The walk with a stack -/

/-- To work off the stack until it is empty meets the given nodes: the node on top is met, and those
directly below it take its place. -/
inductive Walks (t : Tree) : List Nat → List Nat → Prop where
  | nil : Walks t [] []
  | cons {id : Nat} {stack met : List Nat} (h : Walks t (t.children id ++ stack) met) :
      Walks t (id :: stack) (id :: met)

theorem Walks.unique (h : t.Walks stack met) (h' : t.Walks stack met') : met = met' := by
  induction h generalizing met' with
  | nil =>
    cases h'
    rfl
  | cons _ ih =>
    cases h' with
    | cons h' => rw [ih h']

/-- Before what is on the stack below them, the roots of a forest are worked off in pre-order. -/
theorem Spans.walks (hs : t.Spans ids F) (h : t.Walks stack met) :
    t.Walks (ids ++ stack) (F.flatten ++ met) := by
  induction hs generalizing stack met with
  | nil => exact h
  | @cons id ids under rest _ _ ihu ihr =>
    rw [Forest.flatten, List.cons_append, List.cons_append, List.cons_append, List.append_assoc]
    exact .cons (ihu (ihr h))

/-- The walk below a node ends, and it meets what `descendants` lists. -/
theorem walks_iff (h : t.Hung) (p : Nat) :
    t.Walks (t.children p) met ↔ met = t.descendants p := by
  have hwalk := (spans_numbersBelow h p).walks .nil
  rw [List.append_nil, List.append_nil, ← descendants_eq_flatten h] at hwalk
  constructor
  · exact fun hmet => hmet.unique hwalk
  · rintro rfl
    exact hwalk

/-! ### Pre-order by recursion -/

theorem Spans.flatten_eq_flatMap (h : t.Hung) (hs : t.Spans ids F) :
    F.flatten = ids.flatMap fun id => id :: t.descendants id := by
  induction hs with
  | nil => rfl
  | @cons id ids under rest hu _ _ ihr =>
    rw [Forest.flatten, List.flatMap_cons, ihr, hu.descendants_eq (hu.length_flatten_le h)]

/-- **Pre-order**: each child, and then what is below it. -/
theorem descendants_eq_flatMap (h : t.Hung) (p : Nat) :
    t.descendants p = (t.children p).flatMap fun id => id :: t.descendants id := by
  rw [descendants_eq_flatten h, (spans_numbersBelow h p).flatten_eq_flatMap h]

theorem nodup_descendants (h : t.Hung) (p : Nat) : (t.descendants p).Nodup := by
  rw [descendants_eq_flatten h]
  exact (spans_numbersBelow h p).nodup_of_children h

/-- A forest below a node lists its nodes at their depths in the tree. -/
theorem Spans.preorderFrom_eq (h : t.Hung) (hs : t.Spans ids F)
    (hp : ∀ id ∈ ids, t.parent? id = some p) :
    F.preorderFrom (t.depth p + 1) = F.flatten.map fun id => (t.depth id, id) := by
  induction hs generalizing p with
  | nil => rfl
  | @cons id ids under rest _ _ ihu ihr =>
    rw [List.forall_mem_cons] at hp
    have hunder := ihu fun c hc => h.parent_of_mem id c hc
    rw [h.depth_eq hp.1] at hunder
    rw [Forest.preorderFrom, hunder, ihr hp.2, Forest.flatten, List.map_append, List.map_cons,
      h.depth_eq hp.1]

theorem preorder_numbersBelow_root (h : t.Hung) :
    (t.numbersBelow root).preorder = (t.descendants root).map fun id => (t.depth id, id) := by
  rw [descendants_eq_flatten h]
  exact (spans_numbersBelow h root).preorderFrom_eq h fun c hc => h.parent_of_mem root c hc

end Tree

namespace Document

/-- **Documents copy trees**: whichever way a tree was built, the entries of its document in
pre-order, with their depth, are the nodes below the root in pre-order, with theirs, and have their
data. Each node is there once. Below every node the walk with a stack ends, and what it meets is
pre-order: each child, and then what is below it. -/
theorem preorder_ofTree {t : Tree} (h : t.Built) (origin : Origin) (configuration : List Node) :
    (Document.ofTree origin t configuration).data.preorder =
        ((t.descendants Tree.root).map fun id =>
          let n := t.get id
          (t.depth id,
            { parent := n.parent, line := n.line, index := n.index, keyword := n.keyword
              value := n.value, separator := n.separator, flags := n.flags })) ∧
      ∀ p, (t.descendants p).Nodup ∧
        (∀ met, t.Walks (t.children p) met ↔ met = t.descendants p) ∧
        t.descendants p = (t.children p).flatMap fun id => id :: t.descendants id := by
  refine ⟨?_, fun p => ⟨Tree.nodup_descendants h.hung p, fun met => Tree.walks_iff h.hung p,
    Tree.descendants_eq_flatMap h.hung p⟩⟩
  have hnumbers := Tree.preorder_numbersBelow_root h.hung
  rw [Forest.preorder] at hnumbers
  rw [ofTree, Forest.preorder, Tree.forest, Tree.forestBelow, Forest.preorderFrom_map,
    Forest.preorderFrom_map, hnumbers, List.map_map, List.map_map]
  rfl

/-- A collapsed tree whose newest node was attached further up: the node below the marked one is
gone, and the newest one comes before an older one. -/
theorem preorder_ofTree_collapsed :
    let t := (((((Tree.empty.insert { line := 1, keyword := "top".toList }).insert
      { line := 2, index := 1, keyword := "a".toList, collapsing := true }).insert
      { line := 3, index := 2, value := "x".toList }).insert
      { line := 4, index := -2, flags := ["f".toList], separator := true }).append 1
      { line := 5, index := 9, value := "late".toList }).collapse
    t.Built ∧ t.descendants Tree.root = [1, 2, 5, 4] ∧
      (Document.ofTree {} t []).data.preorder =
        [(1, { line := 1, keyword := "top".toList }),
          (2, { parent := 1, line := 2, index := 1, keyword := "a".toList, value := "x".toList }),
          (2, { parent := 1, line := 5, index := 9, value := "late".toList }),
          (1, { line := 4, index := -2, separator := true, flags := ["f".toList] })] := by
  intro t
  have ht : t.Built :=
    (((((Tree.Built.empty.insert _).insert _).insert _).insert _).append (by decide) _).collapse
  refine ⟨ht, by decide +kernel, ?_⟩
  rw [(preorder_ofTree ht {} []).1]
  decide +kernel

end Document

end Marginalia
