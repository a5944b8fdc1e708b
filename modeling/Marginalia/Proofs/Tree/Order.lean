import Marginalia.Proofs.Tree.Growth
import Marginalia.Proofs.Tree.Traversal
import Mathlib.Data.List.Sort

/-!
# The order of a grown tree

In a grown tree what is below a node was attached in one go (`Grown.mem_ancestors_of_between`). So
pre-order is the order of attachment: the nodes below a node are listed by their numbers
(`Grown.descendants_eq_filter`), and those below the root are all nodes in a row
(`Grown.descendants_root`).
-/

namespace Marginalia.Tree

variable {t : Tree} {a p x y : Nat} {ids : List Nat} {F : Forest Nat}

/-- A node attached between `a` and a node below `a` is itself below `a`. -/
theorem Grown.mem_ancestors_of_between (h : t.Grown) (hx : x < t.size) (ha : a ∈ t.ancestors x)
    (hay : a ≤ y) (hyx : y ≤ x) : a ∈ t.ancestors y := by
  induction h generalizing x with
  | empty =>
    have hsize : Tree.empty.size = 1 := rfl
    have hy : y = x := by omega
    rwa [hy]
  | @append t under node ht hu _ _ ih =>
    have hwf := ht.wellFormed
    have hus := hwf.lt_size_of_mem_edge hu
    rw [size_append] at hx
    by_cases hnew : y = t.size
    · have hxy : x = y := by omega
      rwa [← hxy]
    · have hy : y < t.size := by omega
      rw [ancestors_append hwf.toLinked hus node hy]
      by_cases hold : x < t.size
      · rw [ancestors_append hwf.toLinked hus node hold] at ha
        exact ih hold ha hyx
      · -- what is above the new node is on the edge, so above the last node before it
        have hxs : x = t.size := by omega
        subst hxs
        rw [ancestors_append_self hwf.toLinked hus, List.mem_cons] at ha
        have hlast := hwf.last_eq
        exact ih hwf.last_lt
          ((ancestors_suffix hwf.toLinked hwf.last_lt hu).subset (ha.resolve_left (by omega)))
          (by omega)

theorem Grown.children_pairwise (h : t.Grown) (p : Nat) : (t.children p).Pairwise (· < ·) := by
  induction h with
  | empty =>
    rw [children, slot_empty]
    exact List.Pairwise.nil
  | @append t under node ht hu _ _ ih =>
    have hwf := ht.wellFormed
    rw [children_append (hwf.lt_size_of_mem_edge hu)]
    split_ifs
    · refine List.pairwise_append.mpr ⟨ih, List.pairwise_singleton _ _, fun c hc d hd => ?_⟩
      rw [List.mem_singleton.mp hd]
      exact Linked.lt_size_of_parent (hwf.mem_children_iff.mp hc)
    · exact ih

theorem Spans.pairwise_flatten (h : t.Grown) (hs : t.Spans ids F) (hids : ids.Pairwise (· < ·))
    (hp : ∀ id ∈ ids, t.parent? id = some p) : F.flatten.Pairwise (· < ·) := by
  have hl := h.wellFormed.toLinked
  induction hs generalizing p with
  | nil => exact List.Pairwise.nil
  | @cons id ids under rest hu hr ihu ihr =>
    have hidp := hp id List.mem_cons_self
    have hrest : ∀ c ∈ ids, t.parent? c = some p := fun c hc => hp c (List.mem_cons_of_mem _ hc)
    obtain ⟨hlt, hids⟩ := List.pairwise_cons.mp hids
    have hafter : ∀ y ∈ rest.flatten, ∃ c ∈ ids, c ≤ y := by
      intro y hy
      have hys := hr.lt_size hl.hung (fun c hc => Linked.lt_size_of_parent (hrest c hc)) y hy
      obtain ⟨c, hc, hcy⟩ := (hr.mem_flatten_iff hl hys).mp hy
      exact ⟨c, hc, le_of_mem_ancestors hl hys hcy⟩
    simp only [Forest.flatten, List.cons_append, List.pairwise_cons, List.pairwise_append,
      List.mem_append]
    refine ⟨?_, ihu (h.children_pairwise id) fun c hc => hl.mem_children_iff.mp hc,
      ihr hids hrest, ?_⟩
    · rintro x (hx | hx)
      · exact (hu.below_of_mem_flatten hl hx).2.1
      · obtain ⟨c, hc, hcx⟩ := hafter x hx
        exact (hlt c hc).trans_le hcx
    · intro x hx y hy
      obtain ⟨hxs, -, hidx⟩ := hu.below_of_mem_flatten hl hx
      obtain ⟨c, hc, hcy⟩ := hafter y hy
      by_contra hyx
      -- otherwise the sibling `c` would have been attached below `id`
      have hidc := h.mem_ancestors_of_between hxs hidx (hlt c hc).le (by omega)
      exact (hlt c hc).ne (eq_of_parent_eq hl (Linked.lt_size_of_parent (hrest c hc)) hidc
        (self_mem_ancestors t c) hidp (hrest c hc))

/-- **Order**: the nodes below a node, in pre-order, are those that have it above them, in the order
of their attachment. -/
theorem Grown.descendants_eq_filter (h : t.Grown) (p : Nat) :
    t.descendants p = (List.range t.size).filter fun x => x ≠ p ∧ p ∈ t.ancestors x := by
  have hl := h.wellFormed.toLinked
  have hsorted : (t.descendants p).Pairwise (· < ·) := by
    rw [descendants_eq_flatten hl.hung]
    exact (spans_numbersBelow hl.hung p).pairwise_flatten h (h.children_pairwise p)
      fun c hc => hl.mem_children_iff.mp hc
  refine List.Pairwise.eq_of_mem_iff hsorted (List.pairwise_lt_range.filter _) fun x => ?_
  rw [mem_descendants_iff hl, List.mem_filter, List.mem_range, decide_eq_true_eq]

/-- All nodes are below the root, in the order of their attachment. -/
theorem Grown.descendants_root (h : t.Grown) :
    t.descendants root = List.range' 1 (t.size - 1) := by
  have hl := h.wellFormed.toLinked
  have hsorted : (t.descendants root).Pairwise (· < ·) := by
    rw [h.descendants_eq_filter]
    exact List.pairwise_lt_range.filter _
  refine List.Pairwise.eq_of_mem_iff hsorted (List.pairwise_lt_range' 1 Nat.one_pos) fun x => ?_
  rw [mem_descendants_iff hl, List.mem_range'_1]
  constructor
  · rintro ⟨hx, hne, -⟩
    unfold root at hne
    omega
  · rintro ⟨hpos, hx⟩
    have hlt : x < t.size := by omega
    exact ⟨hlt, Nat.ne_of_gt hpos, root_mem_ancestors hl hlt⟩

end Marginalia.Tree
