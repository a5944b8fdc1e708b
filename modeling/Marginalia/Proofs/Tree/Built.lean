import Marginalia.Collapse
import Marginalia.Proofs.Tree.Growth
import Marginalia.Proofs.Tree.Traversal

/-!
# Trees that can be built

Trees change in three ways: a node is attached below a node, its data are replaced, or all that
hangs below it is taken away. What this makes of the empty tree is *built* (`Built`), wherever the
nodes were attached; inserting by index and collapsing are made of it (`Built.insert`,
`Built.collapse`), and so is the tree of a file (`Grown.built`). A built tree is hung
(`Built.hung`), so walking it loses nothing, also where nodes were taken away.

Collapsing only takes away: the nodes that are left below the root were there before, and but for
their values and marks they are the same (`mem_descendants_of_collapse`, `same_collapse`).
-/

namespace Marginalia.Tree

variable {t : Tree} {under id x n : Nat} {ids : List Nat} {node : Node}

/-! ### Changing one node -/

theorem slot_modify (t : Tree) (f : Slot → Slot) (id x : Nat) :
    Tree.slot { t with slots := t.slots.modify id f } x =
      if x = id ∧ x < t.size then f (t.slot x) else t.slot x := by
  simp only [slot, Array.getElem?_modify]
  rcases eq_or_ne x id with rfl | hne
  · by_cases hx : x < t.size
    · rw [if_pos rfl, if_pos ⟨rfl, hx⟩, Array.getElem?_eq_getElem hx]
      rfl
    · rw [if_pos rfl, if_neg (fun h => hx h.2), Array.getElem?_eq_none (Nat.le_of_not_lt hx)]
      rfl
  · rw [if_neg hne.symm, if_neg (fun h => hne h.1)]

@[simp] theorem size_set (t : Tree) (id : Nat) (node : Node) : (t.set id node).size = t.size :=
  Array.size_modify

@[simp] theorem parent?_set (t : Tree) (id : Nat) (node : Node) (x : Nat) :
    (t.set id node).parent? x = t.parent? x := by
  rw [parent?, set, slot_modify]
  split_ifs <;> rfl

@[simp] theorem children_set (t : Tree) (id : Nat) (node : Node) (x : Nat) :
    (t.set id node).children x = t.children x := by
  rw [children, set, slot_modify]
  split_ifs <;> rfl

theorem get_set (t : Tree) (id : Nat) (node : Node) (x : Nat) :
    (t.set id node).get x = if x = id ∧ x < t.size then node else t.get x := by
  rw [get, set, slot_modify]
  split_ifs <;> rfl

@[simp] theorem size_clearChildren (t : Tree) (id : Nat) : (t.clearChildren id).size = t.size :=
  Array.size_modify

@[simp] theorem parent?_clearChildren (t : Tree) (id x : Nat) :
    (t.clearChildren id).parent? x = t.parent? x := by
  rw [parent?, clearChildren, slot_modify]
  split_ifs <;> rfl

@[simp] theorem get_clearChildren (t : Tree) (id x : Nat) :
    (t.clearChildren id).get x = t.get x := by
  rw [get, clearChildren, slot_modify]
  split_ifs <;> rfl

theorem children_clearChildren_sublist (t : Tree) (id x : Nat) :
    ((t.clearChildren id).children x).Sublist (t.children x) := by
  rw [children, clearChildren, slot_modify]
  split_ifs
  · exact List.nil_sublist _
  · exact List.Sublist.refl _

/-- **Collapsing step by step**: what collapsing one node keeps holds of the tree in the end. -/
theorem collapseWithin_induction {P : Tree → Prop} (hnode : ∀ t id, P t → P (t.collapseNode id))
    (n : Nat) (ids : List Nat) (h : P t) : P (collapseWithin n ids t) := by
  induction n generalizing ids t with
  | zero => exact h
  | succ n ih =>
    cases ids with
    | nil => exact h
    | cons id ids =>
      rw [collapseWithin]
      split_ifs
      · exact ih ids (hnode t id h)
      · exact ih ids (ih _ h)

/-! ### Built trees -/

/-- Made from the empty tree by attaching nodes anywhere, replacing data and taking nodes away. -/
inductive Built : Tree → Prop where
  | empty : Built empty
  | append {t : Tree} {under : Nat} (ht : Built t) (hu : under < t.size) (node : Node) :
      Built (t.append under node)
  | set {t : Tree} (ht : Built t) (id : Nat) (node : Node) : Built (t.set id node)
  | clearChildren {t : Tree} (ht : Built t) (id : Nat) : Built (t.clearChildren id)

theorem hung_append (h : t.Hung) (hu : under < t.size) (node : Node) :
    (t.append under node).Hung where
  root_lt := by
    rw [size_append]
    exact h.root_lt.trans (Nat.lt_succ_self _)
  lt_of_parent id p hp := by
    rw [parent?_append hu] at hp
    split_ifs at hp with hid
    · rw [Option.some.injEq] at hp
      omega
    · exact h.lt_of_parent id p hp
  parent_of_mem p id hid := by
    rw [children_append hu] at hid
    rw [parent?_append hu]
    by_cases hnew : id = t.size
    · rw [if_pos hnew]
      split_ifs at hid with hp
      · rw [hp]
      · exact absurd (h.lt_size_of_mem hid) (hnew ▸ lt_irrefl _)
    · rw [if_neg hnew]
      split_ifs at hid with hp
      · rw [List.mem_append, List.mem_singleton] at hid
        exact h.parent_of_mem p id (hid.resolve_right hnew)
      · exact h.parent_of_mem p id hid
  nodup_children p := by
    rw [children_append hu]
    split_ifs
    · refine (h.nodup_children p).append (List.nodup_singleton _) fun c hc hnew => ?_
      rw [List.mem_singleton] at hnew
      exact absurd (h.lt_size_of_mem hc) (hnew ▸ lt_irrefl _)
    · exact h.nodup_children p

theorem hung_set (h : t.Hung) (id : Nat) (node : Node) : (t.set id node).Hung where
  root_lt := by rw [size_set]; exact h.root_lt
  lt_of_parent := by simpa using h.lt_of_parent
  parent_of_mem := by simpa using h.parent_of_mem
  nodup_children := by simpa using h.nodup_children

theorem hung_clearChildren (h : t.Hung) (id : Nat) : (t.clearChildren id).Hung where
  root_lt := by rw [size_clearChildren]; exact h.root_lt
  lt_of_parent := by simpa using h.lt_of_parent
  parent_of_mem p c hc := by
    rw [parent?_clearChildren]
    exact h.parent_of_mem p c ((children_clearChildren_sublist t id p).subset hc)
  nodup_children p := (h.nodup_children p).sublist (children_clearChildren_sublist t id p)

namespace Built

theorem hung (h : t.Built) : t.Hung := by
  induction h with
  | empty => exact linked_empty.hung
  | append _ hu node ih => exact hung_append ih hu node
  | set _ id node ih => exact hung_set ih id node
  | clearChildren _ id ih => exact hung_clearChildren ih id

theorem last_lt (h : t.Built) : t.last < t.size := by
  induction h with
  | empty => exact Nat.one_pos
  | append => rw [last_append, size_append]; exact Nat.lt_succ_self _
  | set _ _ _ ih => rw [size_set]; exact ih
  | clearChildren _ _ ih => rw [size_clearChildren]; exact ih

theorem insert (h : t.Built) (node : Node) : (t.insert node).Built :=
  h.append (placement_lt_size h.hung h.last_lt node.index) node

theorem collapse (h : t.Built) : t.collapse.Built :=
  collapseWithin_induction (fun _ id ht => (ht.set id _).clearChildren id) _ _ h

end Built

section Same

variable {β : Type} {f : Node → β}

theorem same_collapseNode
    (hf : ∀ n v, f { n with value := v, collapsing := false, appending := false } = f n)
    (t : Tree) (id x : Nat) : f ((t.collapseNode id).get x) = f (t.get x) := by
  rw [collapseNode, get_clearChildren, get_set]
  split_ifs with hx
  · rw [hx.1, hf]
  · rfl

/-- What does not depend on the value of a node and on its marks stays the same. -/
theorem same_collapse
    (hf : ∀ n v, f { n with value := v, collapsing := false, appending := false } = f n)
    (t : Tree) (x : Nat) : f (t.collapse.get x) = f (t.get x) :=
  collapseWithin_induction (P := fun t' => f (t'.get x) = f (t.get x))
    (fun t' id h => (same_collapseNode hf t' id x).trans h) _ _ rfl

end Same

theorem children_collapseNode_subset (t : Tree) (id x : Nat) :
    (t.collapseNode id).children x ⊆ t.children x := by
  rw [← children_set t id _ x]
  exact (children_clearChildren_sublist _ id x).subset

theorem children_collapseWithin_subset (n : Nat) (ids : List Nat) (t : Tree) (x : Nat) :
    (collapseWithin n ids t).children x ⊆ t.children x :=
  collapseWithin_induction (P := fun t' => t'.children x ⊆ t.children x)
    (fun t' id h => List.Subset.trans (children_collapseNode_subset t' id x) h) n ids
    (List.Subset.refl _)

theorem keyword_collapse (t : Tree) (x : Nat) : (t.collapse.get x).keyword = (t.get x).keyword :=
  same_collapse (fun _ _ => rfl) t x

/-- What collapsing leaves below a node was there before. -/
theorem mem_descendants_of_collapse (h : t.Built) (hx : x ∈ t.collapse.descendants id) :
    x ∈ t.descendants id := by
  rw [mem_descendants_iff_reaches h.collapse.hung] at hx
  have hstep : ∀ a b, b ∈ t.collapse.children a → b ∈ t.children a := fun a _ hb =>
    children_collapseWithin_subset _ _ t a hb
  exact (mem_descendants_iff_reaches h.hung).mpr
    ⟨hx.1, Relation.ReflTransGen.mono hstep _ _ hx.2⟩

end Marginalia.Tree
