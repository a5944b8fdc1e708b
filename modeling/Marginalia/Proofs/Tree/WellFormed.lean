import Marginalia.Proofs.Tree.Ancestors
import Mathlib.Data.Int.Order.Basic

/-!
# Well-formed trees and the place of an index

The last node and the nodes above it are the *edge* of a tree. A tree is *well formed* when it is
linked, the last node is the newest, and indices rise from a node to those below it, the root set
apart. Attaching a node keeps a tree well formed when the new index is larger than the one above
(`wellFormed_append`).

In a well-formed tree the climb of `placement` stops in one of three places (`placement_cases`).
Each is a node of the edge, and is the root or has a smaller index than the new node.
-/

namespace Marginalia.Tree

variable {t : Tree} {under id a b c p : Nat} {node : Node} {index : Int}

/-- The last node and the nodes above it. -/
def edge (t : Tree) : List Nat := t.ancestors t.last

/-! ### Well-formed trees -/

/-- Linked, with the newest node as the last one and indices that rise downwards. -/
structure WellFormed (t : Tree) : Prop extends t.Linked where
  /-- The last node is the newest. -/
  last_eq : t.last + 1 = t.size
  /-- A node below another one than the root has a larger index. -/
  index_lt : ∀ p id, t.parent? id = some p → p ≠ root → (t.get p).index < (t.get id).index

theorem wellFormed_empty : WellFormed empty where
  toLinked := linked_empty
  last_eq := rfl
  index_lt := by
    intro p id hp hne
    have h := linked_empty.parent_lt_size hp
    have : empty.size = 1 := rfl
    unfold root at hne
    omega

namespace WellFormed

theorem last_lt (h : t.WellFormed) : t.last < t.size := by
  have := h.last_eq
  omega

theorem lt_size_of_mem_edge (h : t.WellFormed) (ha : a ∈ t.edge) : a < t.size :=
  (le_of_mem_ancestors h.toLinked h.last_lt ha).trans_lt h.last_lt

/-- Going down from one ancestor to another, indices rise. -/
theorem index_lt_of_mem_ancestors (h : t.WellFormed) (hid : id < t.size)
    (ha : a ∈ t.ancestors id) (hb : b ∈ t.ancestors id) (hab : a < b) (hr : a ≠ root) :
    (t.get a).index < (t.get b).index := by
  induction id, hid using h.toLinked.climb generalizing b with
  | base =>
    rw [ancestors_root, List.mem_singleton] at ha
    exact absurd ha hr
  | step id p hp ih =>
    have hpid := h.lt_of_parent hp
    have hps := h.parent_lt_size hp
    rw [ancestors_eq_cons h.toLinked hp] at ha hb
    rcases List.mem_cons.mp hb with rfl | hb
    · have ha : a ∈ t.ancestors p := (List.mem_cons.mp ha).resolve_left (Nat.ne_of_lt hab)
      rcases Nat.eq_or_lt_of_le (le_of_mem_ancestors h.toLinked hps ha) with rfl | hap
      · exact h.index_lt a b hp hr
      · have hpr : p ≠ root := Nat.ne_of_gt (Nat.zero_lt_of_lt hap)
        exact (ih ha (self_mem_ancestors t p) hap).trans (h.index_lt p b hp hpr)
    · have hbp := le_of_mem_ancestors h.toLinked hps hb
      exact ih ((List.mem_cons.mp ha).resolve_left (by omega)) hb hab

/-! ### Where an index belongs -/

/-- **Placement**: below the last node if that is the root or has a smaller index; otherwise
beside the lowest node of the edge whose index is not larger; otherwise below the root. -/
theorem placement_cases (h : t.WellFormed) (index : Int) :
    ((t.last = root ∨ (t.get t.last).index < index) ∧ t.placement index = t.last) ∨
    (¬ (t.last = root ∨ (t.get t.last).index < index) ∧
      ((∃ c ∈ t.edge, t.parent? c = some (t.placement index) ∧ (t.get c).index ≤ index ∧
          ∀ b ∈ t.edge, c < b → index < (t.get b).index) ∨
        (t.placement index = root ∧ ∀ b ∈ t.edge, b ≠ root → index < (t.get b).index))) := by
  have hdeep : ∀ b ∈ t.edge, b ≠ root →
      ((t.parent? b).isSome && decide ((t.get b).index ≤ index)) = false →
        index < (t.get b).index := by
    intro b hb hr hf
    obtain ⟨q, hq, -⟩ := h.parent_lt b hr (h.lt_size_of_mem_edge hb)
    rw [hq, Option.isSome_some, Bool.true_and, decide_eq_false_iff_not] at hf
    exact Int.not_le.mp hf
  by_cases hlast : t.last = root ∨ (t.get t.last).index < index
  · left
    exact ⟨hlast, by rw [placement, if_pos hlast]⟩
  · right
    refine ⟨hlast, ?_⟩
    rw [placement, if_neg hlast]
    cases hf : (t.ancestors t.last).find? fun id =>
        (t.parent? id).isSome && decide ((t.get id).index ≤ index) with
    | none =>
      right
      refine ⟨?_, fun b hb hr => hdeep b hb hr ?_⟩
      · simp only [hf, getLast?_ancestors h.toLinked h.last_lt, Option.getD_some]
      · simpa using List.find?_eq_none.mp hf b hb
    | some c =>
      left
      obtain ⟨hc, below, above, hsplit, hbelow⟩ := List.find?_eq_some_iff_append.mp hf
      rw [Bool.and_eq_true, decide_eq_true_eq] at hc
      obtain ⟨p, hp⟩ := Option.isSome_iff_exists.mp hc.1
      have hsorted := ancestors_pairwise h.toLinked h.last_lt
      rw [hsplit, List.pairwise_append, List.pairwise_cons] at hsorted
      refine ⟨c, List.mem_of_find?_eq_some hf, ?_, hc.2, fun b hb hcb => ?_⟩
      · simp only [hf, hp, Option.getD_some]
      · have hbr : b ≠ root := Nat.ne_of_gt (Nat.zero_lt_of_lt hcb)
        refine hdeep b hb hbr ?_
        have hmem : b ∈ below := by
          have hb' := hb
          rw [edge, hsplit, List.mem_append, List.mem_cons] at hb'
          rcases hb' with hb' | rfl | hb'
          · exact hb'
          · omega
          · have := hsorted.2.1.1 b hb'
            omega
        have hb' := hbelow b hmem
        rwa [Bool.not_eq_true'] at hb'

theorem placement_mem_edge (h : t.WellFormed) (index : Int) : t.placement index ∈ t.edge := by
  rcases h.placement_cases index with ⟨-, hp⟩ | ⟨-, ⟨c, hc, hp, -⟩ | ⟨hp, -⟩⟩
  · rw [hp]
    exact self_mem_ancestors t t.last
  · exact parent_mem_ancestors h.toLinked h.last_lt hc hp
  · rw [hp]
    exact root_mem_ancestors h.toLinked h.last_lt

theorem placement_index_lt (h : t.WellFormed) (index : Int) :
    t.placement index = root ∨ (t.get (t.placement index)).index < index := by
  rcases h.placement_cases index with ⟨hl, hp⟩ | ⟨-, ⟨c, hc, hp, hi, -⟩ | ⟨hp, -⟩⟩
  · rw [hp]
    exact hl
  · rcases eq_or_ne (t.placement index) root with hr | hr
    · exact Or.inl hr
    · exact Or.inr ((h.index_lt _ c hp hr).trans_le hi)
  · exact Or.inl hp

/-- A node of the edge with the very index asked for gets the new node as a sibling. -/
theorem placement_of_index_eq (h : t.WellFormed) (hc : c ∈ t.edge) (hp : t.parent? c = some p)
    (hi : (t.get c).index = index) : t.placement index = p := by
  have hcr := h.ne_root_of_parent hp
  have hle : c ≤ t.last := le_of_mem_ancestors h.toLinked h.last_lt hc
  rcases h.placement_cases index with ⟨hl, -⟩ | ⟨-, ⟨c', hc', hp', hi', hb'⟩ | ⟨-, hb'⟩⟩
  · exfalso
    rcases hl with hl | hl
    · rw [hl] at hle
      exact hcr (Nat.le_zero.mp hle)
    · rcases Nat.eq_or_lt_of_le hle with rfl | hlt
      · omega
      · have := h.index_lt_of_mem_ancestors h.last_lt hc (self_mem_ancestors t _) hlt hcr
        omega
  · rcases Nat.lt_trichotomy c c' with hlt | rfl | hlt
    · have := h.index_lt_of_mem_ancestors h.last_lt hc hc' hlt hcr
      omega
    · rw [hp, Option.some.injEq] at hp'
      exact hp'.symm
    · have := hb' c hc hlt
      omega
  · have := hb' c hc hcr
    omega

end WellFormed

/-! ### After a node has been attached -/

theorem edge_append (h : t.Linked) (hu : under < t.size) (node : Node) :
    (t.append under node).edge = t.size :: t.ancestors under := by
  rw [edge, last_append, ancestors_append_self h hu]

/-- A node attached below the root, or below one with a smaller index, keeps a tree well formed. -/
theorem wellFormed_append (h : t.WellFormed) (hu : under < t.size)
    (hi : under = root ∨ (t.get under).index < node.index) : (t.append under node).WellFormed where
  toLinked := linked_append h.toLinked hu node
  last_eq := by rw [last_append, size_append]
  index_lt := by
    intro p id hp hne
    rw [parent?_append hu] at hp
    have hsize : ∀ q < t.size, (t.append under node).get q = t.get q := by
      intro q hq
      rw [get_append hu, if_neg (Nat.ne_of_lt hq)]
    split_ifs at hp with hid
    · rw [Option.some.injEq] at hp
      subst hp
      rw [hsize under hu, hid, get_append hu, if_pos rfl]
      exact hi.resolve_left hne
    · rw [hsize p (h.parent_lt_size hp), hsize id (Linked.lt_size_of_parent hp)]
      exact h.index_lt p id hp hne

theorem isEmpty_iff (h : t.WellFormed) : t.isEmpty = true ↔ t.size = 1 := by
  rw [isEmpty, List.isEmpty_iff]
  constructor
  · intro hnil
    by_contra hsize
    have hroot := h.root_lt
    obtain ⟨p, hp, hlt⟩ := h.parent_lt 1 Nat.one_ne_zero (by unfold root at hroot; omega)
    have hpr : p = root := Nat.lt_one_iff.mp hlt
    rw [hpr, ← h.mem_children_iff, hnil] at hp
    cases hp
  · intro hsize
    by_contra hne
    obtain ⟨c, hc⟩ := List.exists_mem_of_ne_nil _ hne
    have hp := h.mem_children_iff.mp hc
    have h₁ := h.lt_of_parent hp
    have h₂ := Linked.lt_size_of_parent hp
    omega

end Marginalia.Tree
