import Marginalia.Proofs.Tree.WellFormed

/-!
# Growth at the edge of a tree

A tree is *grown* when it arises from the empty one by attaching nodes below nodes of the edge. Each
new node has a larger index than the node above it, the root set apart, and a node deeper than the
last one goes below the last one. Both ways to attach a node are of this kind: by index
(`grown_insert`), and below the node that collects plain lines (`grown_collect`).

What grows never changes the data of a node again, nor the node above it, and lists of children only
get longer (`Extends`). A node gets its first child at once or never: it has children exactly when
the node attached after it is deeper (`Grown.children_eq_nil_iff`).
-/

namespace Marginalia.Tree

variable {t t' t'' : Tree} {under id u : Nat} {node : Node}

/-- Built by attaching nodes at the edge, each at the depth that its index asks for. -/
inductive Grown : Tree → Prop where
  | empty : Grown empty
  | append {t : Tree} {under : Nat} {node : Node} (ht : Grown t) (hu : under ∈ t.edge)
      (hi : under = root ∨ (t.get under).index < node.index)
      (hn : under = t.last ∨ node.index ≤ (t.get t.last).index) : Grown (t.append under node)

theorem Grown.wellFormed (h : t.Grown) : t.WellFormed := by
  induction h with
  | empty => exact wellFormed_empty
  | append _ hu hi _ ih => exact wellFormed_append ih (ih.lt_size_of_mem_edge hu) hi

theorem Grown.get_root (h : t.Grown) : t.get root = {} := by
  induction h with
  | empty => rfl
  | append ht hu _ _ ih =>
    have hwf := ht.wellFormed
    rw [get_append (hwf.lt_size_of_mem_edge hu), if_neg (Nat.ne_of_lt hwf.root_lt), ih]

theorem grown_insert (h : t.Grown) (node : Node) : (t.insert node).Grown := by
  have hwf := h.wellFormed
  refine h.append (hwf.placement_mem_edge node.index) (hwf.placement_index_lt node.index) ?_
  rcases hwf.placement_cases node.index with ⟨-, hp⟩ | ⟨hl, -⟩
  · exact Or.inl hp
  · exact Or.inr (Int.not_lt.mp (not_or.mp hl).2)

/-! ### The node that collects plain lines -/

theorem mem_edge_of_appendingTarget (hu : t.appendingTarget = some u) : u ∈ t.edge :=
  List.mem_of_find?_eq_some hu

theorem appending_of_appendingTarget (hu : t.appendingTarget = some u) :
    (t.get u).appending = true := by
  have h := List.find?_some hu
  exact h

theorem Grown.appendingTarget_ne_root (h : t.Grown) (hu : t.appendingTarget = some u) :
    u ≠ root := by
  rintro rfl
  have ha := appending_of_appendingTarget hu
  rw [h.get_root] at ha
  cases ha

theorem grown_collect (h : t.Grown) (hu : t.appendingTarget = some u)
    (hi : node.index = (t.get u).index + 1) : (t.append u node).Grown := by
  have hwf := h.wellFormed
  have hmem := mem_edge_of_appendingTarget hu
  refine h.append hmem (Or.inr (by omega)) ?_
  rcases Nat.eq_or_lt_of_le (le_of_mem_ancestors hwf.toLinked hwf.last_lt hmem) with heq | hlt
  · exact Or.inl heq
  · have := hwf.index_lt_of_mem_ancestors hwf.last_lt hmem (self_mem_ancestors t _) hlt
      (h.appendingTarget_ne_root hu)
    exact Or.inr (by omega)

/-! ### What stays -/

/-- `t'` has all nodes of `t` as they are there, with more children perhaps. -/
structure Extends (t t' : Tree) : Prop where
  /-- No number is given up. -/
  size_le : t.size ≤ t'.size
  /-- The data of a node stays. -/
  get_eq : ∀ id < t.size, t'.get id = t.get id
  /-- A node stays below the same node. -/
  parent_eq : ∀ id < t.size, t'.parent? id = t.parent? id
  /-- New children come last. -/
  children_prefix : ∀ id, t.children id <+: t'.children id

theorem Extends.refl (t : Tree) : t.Extends t :=
  ⟨le_rfl, fun _ _ => rfl, fun _ _ => rfl, fun _ => List.prefix_rfl⟩

theorem Extends.trans (h : t.Extends t') (h' : t'.Extends t'') : t.Extends t'' where
  size_le := h.size_le.trans h'.size_le
  get_eq id hid := (h'.get_eq id (hid.trans_le h.size_le)).trans (h.get_eq id hid)
  parent_eq id hid := (h'.parent_eq id (hid.trans_le h.size_le)).trans (h.parent_eq id hid)
  children_prefix id := (h.children_prefix id).trans (h'.children_prefix id)

theorem extends_append (hu : under < t.size) (node : Node) : t.Extends (t.append under node) where
  size_le := by
    rw [size_append]
    omega
  get_eq id hid := by rw [get_append hu, if_neg (Nat.ne_of_lt hid)]
  parent_eq id hid := by rw [parent?_append hu, if_neg (Nat.ne_of_lt hid)]
  children_prefix id := by
    rw [children_append hu]
    split_ifs
    · exact List.prefix_append _ _
    · exact List.prefix_rfl

theorem extends_insert (h : t.WellFormed) (node : Node) : t.Extends (t.insert node) :=
  extends_append (h.lt_size_of_mem_edge (h.placement_mem_edge node.index)) node

/-! ### The first child -/

/-- A node is directly above the next one exactly when the next one is deeper. -/
theorem Grown.parent?_succ_iff (h : t.Grown) (hr : id ≠ root) :
    t.parent? (id + 1) = some id ↔
      id + 1 < t.size ∧ (t.get id).index < (t.get (id + 1)).index := by
  constructor
  · intro hp
    exact ⟨Linked.lt_size_of_parent hp, h.wellFormed.index_lt id (id + 1) hp hr⟩
  · rintro ⟨hlt, hi⟩
    induction h with
    | empty =>
      have : Tree.empty.size = 1 := rfl
      omega
    | @append t under node ht hu _ hn ih =>
      have hwf := ht.wellFormed
      have hus := hwf.lt_size_of_mem_edge hu
      have hext := extends_append hus node
      rw [size_append] at hlt
      by_cases hold : id + 1 < t.size
      · rw [hext.get_eq _ hold, hext.get_eq _ (Nat.lt_of_succ_lt hold)] at hi
        rw [hext.parent_eq _ hold]
        exact ih hold hi
      · -- the next node is the new one, so `id` is the last node before it
        have hnew : id + 1 = t.size := by omega
        have hlast : id = t.last := by
          have := hwf.last_eq
          omega
        rw [hext.get_eq id (by omega), get_append hus, if_pos hnew] at hi
        rw [parent?_append hus, if_pos hnew, hlast]
        rcases hn with hn | hn
        · rw [hn]
        · rw [← hlast] at hn
          exact absurd hi (Int.not_lt.mpr hn)

/-- A node with children is directly above the next node. -/
theorem Grown.parent?_succ (h : t.Grown) (hc : t.children id ≠ []) :
    t.parent? (id + 1) = some id := by
  induction h with
  | empty =>
    rw [children, slot_empty] at hc
    exact absurd rfl hc
  | @append t under node ht hu _ _ ih =>
    have hwf := ht.wellFormed
    have hus := hwf.lt_size_of_mem_edge hu
    by_cases hold : t.children id = []
    · -- the first child of `id` is the new node, so nothing of the edge is below `id`
      rw [children_append hus] at hc
      have hid : id = under := by
        by_contra hne
        rw [if_neg hne] at hc
        exact hc hold
      have hlast : under = t.last := by
        by_contra hne
        obtain ⟨c, -, hcp⟩ := exists_child_mem_ancestors hwf.toLinked hwf.last_lt hu hne
        rw [← hwf.mem_children_iff, ← hid, hold] at hcp
        cases hcp
      rw [hid, hlast, hwf.last_eq, parent?_append (hlast ▸ hus), if_pos rfl]
    · have hp := ih hold
      rw [(extends_append hus node).parent_eq _ (Linked.lt_size_of_parent hp), hp]

/-- **Leaves**: a node below the root has no children exactly when it is the last one or the next
one is not deeper. -/
theorem Grown.children_eq_nil_iff (h : t.Grown) (hr : id ≠ root) :
    t.children id = [] ↔
      (id + 1 < t.size → (t.get (id + 1)).index ≤ (t.get id).index) := by
  constructor
  · intro hnil hlt
    by_contra hi
    have hp := (h.parent?_succ_iff hr).mpr ⟨hlt, Int.not_le.mp hi⟩
    rw [← h.wellFormed.mem_children_iff, hnil] at hp
    cases hp
  · intro hle
    by_contra hne
    obtain ⟨hlt, hi⟩ := (h.parent?_succ_iff hr).mp (h.parent?_succ hne)
    have := hle hlt
    omega

end Marginalia.Tree
