import Marginalia.Proofs.Tree.Ancestors
import Mathlib.Data.List.Nodup
import Mathlib.Data.List.Perm.Subperm

/-!
# Walking a tree

A forest of numbers *spans* a list of nodes when its roots are these nodes and below each node stand
its children (`Spans`). In a hung tree the children of every node are spanned by one forest, which
holds each node below once (`Spans.nodup_flatten`). So no walk runs out of steps: the recursive
reading gives that forest (`spans_numbersBelow`), the walk with a stack its pre-order
(`descendants_eq_flatten`), and what is met below a node are those to which steps from it lead
(`mem_descendants_iff_reaches`). In a linked tree these are the nodes that have it above them
(`mem_descendants_iff`).
-/

namespace Marginalia.Tree

variable {t t' : Tree} {id a b p x n : Nat} {ids stack : List Nat} {F : Forest Nat}

/-- The roots of the forest are the given nodes, and below each node are its children. -/
inductive Spans (t : Tree) : List Nat → Forest Nat → Prop where
  | nil : Spans t [] .nil
  | cons {id : Nat} {ids : List Nat} {under rest : Forest Nat}
      (hu : Spans t (t.children id) under) (hr : Spans t ids rest) :
      Spans t (id :: ids) (.cons id under rest)

/-! ### Both walks follow the forest -/

theorem Spans.forestWithin_eq (hs : t.Spans ids F) (hn : F.flatten.length ≤ n) :
    t.forestWithin n ids = F := by
  induction hs generalizing n with
  | nil => cases n <;> rfl
  | @cons id ids under rest _ _ ihu ihr =>
    simp only [Forest.flatten, List.cons_append, List.length_cons, List.length_append] at hn
    obtain ⟨m, rfl⟩ : ∃ m, n = m + 1 := ⟨n - 1, by omega⟩
    rw [forestWithin, ihu (by omega), ihr (by omega)]

theorem Spans.visit_append (hs : t.Spans ids F) (stack : List Nat) (n : Nat) :
    t.visit (F.flatten.length + n) (ids ++ stack) = F.flatten ++ t.visit n stack := by
  induction hs generalizing stack n with
  | nil => simp [Forest.flatten]
  | @cons id ids under rest _ _ ihu ihr =>
    have hlen : (Forest.cons id under rest).flatten.length + n =
        under.flatten.length + (rest.flatten.length + n) + 1 := by
      simp only [Forest.flatten, List.cons_append, List.length_cons, List.length_append]
      omega
    rw [hlen, List.cons_append, visit, ihu, ihr]
    simp [Forest.flatten]

/-- Trees that agree on the children of all nodes in a forest span it alike. -/
theorem Spans.congr (hs : t.Spans ids F)
    (hsame : ∀ x ∈ F.flatten, t'.children x = t.children x) : t'.Spans ids F := by
  induction hs with
  | nil => exact .nil
  | @cons id ids under rest _ _ ihu ihr =>
    simp only [Forest.flatten, List.cons_append, List.mem_cons, List.mem_append] at hsame
    refine .cons ?_ (ihr fun x hx => hsame x (Or.inr (Or.inr hx)))
    rw [hsame id (Or.inl rfl)]
    exact ihu fun x hx => hsame x (Or.inr (Or.inl hx))

/-! ### Which nodes are met -/

theorem children_of_size_le (h : t.size ≤ id) : t.children id = [] := by
  rw [children, slot_of_size_le h]

theorem exists_spans_of_forall (h : ∀ id ∈ ids, ∃ F, t.Spans (t.children id) F) :
    ∃ F, t.Spans ids F := by
  induction ids with
  | nil => exact ⟨_, .nil⟩
  | cons id ids ih =>
    rw [List.forall_mem_cons] at h
    obtain ⟨under, hu⟩ := h.1
    obtain ⟨rest, hr⟩ := ih h.2
    exact ⟨_, .cons hu hr⟩

theorem exists_spans (h : t.Hung) (ids : List Nat) : ∃ F, t.Spans ids F := by
  -- the numbers grow from a node to its children, so the induction is on what is left above them
  have main : ∀ k, ∀ id, t.size - id ≤ k → ∃ F, t.Spans (t.children id) F := by
    intro k
    induction k with
    | zero =>
      intro id hid
      rw [children_of_size_le (by omega)]
      exact ⟨_, .nil⟩
    | succ k ih =>
      intro id hid
      refine exists_spans_of_forall fun c hc => ih c ?_
      have hlt := h.lt_of_mem hc
      have hsize := h.lt_size_of_mem hc
      omega
  exact exists_spans_of_forall fun id _ => main t.size id (Nat.sub_le _ _)

/-- A forest holds the nodes to which steps from its roots lead. -/
theorem Spans.mem_flatten_iff_reaches (hs : t.Spans ids F) :
    x ∈ F.flatten ↔ ∃ id ∈ ids, t.Reaches id x := by
  induction hs with
  | nil => simp [Forest.flatten]
  | @cons id ids under rest _ _ ihu ihr =>
    simp only [Forest.flatten, List.cons_append, List.mem_cons, List.mem_append, ihu, ihr,
      exists_eq_or_imp, Reaches, Relation.ReflTransGen.cases_head_iff (a := id), ← or_assoc,
      eq_comm (a := x)]

/-- Of two nodes above a third one, the older is above the newer. -/
theorem mem_ancestors_of_le (h : t.Linked) (hx : x < t.size) (ha : a ∈ t.ancestors x)
    (hb : b ∈ t.ancestors x) (hab : a ≤ b) : a ∈ t.ancestors b := by
  induction x, hx using h.climb with
  | base =>
    rw [ancestors_root, List.mem_singleton] at hb
    rwa [hb]
  | step x p hp ih =>
    by_cases hbx : b = x
    · rwa [hbx]
    · rw [ancestors_eq_cons h hp, List.mem_cons] at ha hb
      have hb' := hb.resolve_left hbx
      have hbp := le_of_mem_ancestors h (h.parent_lt_size hp) hb'
      have hpx := h.lt_of_parent hp
      exact ih (ha.resolve_left (by omega)) hb'

/-- At most one child of a node is above a given one. -/
theorem eq_of_parent_eq (h : t.Linked) (hx : x < t.size) (ha : a ∈ t.ancestors x)
    (hb : b ∈ t.ancestors x) (hap : t.parent? a = some p) (hbp : t.parent? b = some p) : a = b := by
  have main : ∀ {a b : Nat}, a ∈ t.ancestors x → b ∈ t.ancestors x → t.parent? a = some p →
      t.parent? b = some p → ¬ a < b := by
    intro a b ha hb hap hbp hlt
    have hmem := mem_ancestors_of_le h hx ha hb hlt.le
    rw [ancestors_eq_cons h hbp, List.mem_cons] at hmem
    have hle := le_of_mem_ancestors h (h.parent_lt_size hbp) (hmem.resolve_left hlt.ne)
    have := h.lt_of_parent hap
    omega
  have h₁ := main ha hb hap hbp
  have h₂ := main hb ha hbp hap
  omega

theorem Spans.lt_size (h : t.Hung) (hs : t.Spans ids F) (hids : ∀ id ∈ ids, id < t.size) :
    ∀ x ∈ F.flatten, x < t.size := by
  induction hs with
  | nil => exact fun x hx => absurd hx List.not_mem_nil
  | @cons id ids under rest _ _ ihu ihr =>
    intro x hx
    simp only [Forest.flatten, List.cons_append, List.mem_cons, List.mem_append] at hx
    rcases hx with rfl | hx | hx
    · exact hids x List.mem_cons_self
    · exact ihu (fun c hc => h.lt_size_of_mem hc) x hx
    · exact ihr (fun c hc => hids c (List.mem_cons_of_mem _ hc)) x hx

/-- A forest holds the nodes that have one of its roots above them. -/
theorem Spans.mem_flatten_iff (h : t.Linked) (hs : t.Spans ids F) (hx : x < t.size) :
    x ∈ F.flatten ↔ ∃ id ∈ ids, id ∈ t.ancestors x := by
  induction hs with
  | nil => simp [Forest.flatten]
  | @cons id ids under rest _ _ ihu ihr =>
    simp only [Forest.flatten, List.cons_append, List.mem_cons, List.mem_append, ihu, ihr,
      exists_eq_or_imp]
    constructor
    · rintro (rfl | ⟨c, hc, hcx⟩ | hrest)
      · exact Or.inl (self_mem_ancestors t x)
      · exact Or.inl (parent_mem_ancestors h hx hcx (h.mem_children_iff.mp hc))
      · exact Or.inr hrest
    · rintro (hid | hrest)
      · by_cases hxid : id = x
        · exact Or.inl hxid.symm
        · obtain ⟨c, hc, hcp⟩ := exists_child_mem_ancestors h hx hid hxid
          exact Or.inr (Or.inl ⟨c, h.mem_children_iff.mpr hcp, hc⟩)
      · exact Or.inr (Or.inr hrest)

theorem Spans.lt_size_of_children (h : t.Hung) (hs : t.Spans (t.children p) F) :
    ∀ x ∈ F.flatten, x < t.size := hs.lt_size h fun _ hc => h.lt_size_of_mem hc

/-- What a forest below a node holds is newer than the node and has it above. -/
theorem Spans.below_of_mem_flatten (h : t.Linked) (hs : t.Spans (t.children id) F)
    (hx : x ∈ F.flatten) : x < t.size ∧ id < x ∧ id ∈ t.ancestors x := by
  have hlt := hs.lt_size_of_children h.hung x hx
  obtain ⟨c, hc, hcx⟩ := (hs.mem_flatten_iff h hlt).mp hx
  have hcp := h.mem_children_iff.mp hc
  exact ⟨hlt, (h.lt_of_parent hcp).trans_le (le_of_mem_ancestors h hlt hcx),
    parent_mem_ancestors h hlt hcx hcp⟩

theorem Spans.nodup_flatten (h : t.Hung) (hs : t.Spans ids F) (hids : ids.Nodup)
    (hp : ids ⊆ t.children p) : F.flatten.Nodup := by
  induction hs generalizing p with
  | nil => exact List.nodup_nil
  | @cons id ids under rest hu hr ihu ihr =>
    obtain ⟨hidp, hrest⟩ := List.cons_subset.mp hp
    have hbeside : ∀ x ∈ rest.flatten, ¬ t.Reaches id x := by
      intro x hx hid
      obtain ⟨c, hc, hcx⟩ := hr.mem_flatten_iff_reaches.mp hx
      have := h.eq_of_reaches hidp (hrest hc) hid hcx
      exact (List.nodup_cons.mp hids).1 (this ▸ hc)
    have hbelow : ∀ x ∈ under.flatten, id < x ∧ t.Reaches id x := by
      intro x hx
      obtain ⟨c, hc, hcx⟩ := hu.mem_flatten_iff_reaches.mp hx
      exact ⟨(h.lt_of_mem hc).trans_le (h.le_of_reaches hcx), hcx.head hc⟩
    simp only [Forest.flatten, List.cons_append, List.nodup_cons, List.mem_append, not_or]
    refine ⟨⟨?_, fun hid => hbeside id hid .refl⟩, List.Nodup.append ?_ ?_ ?_⟩
    · exact fun hid => (hbelow id hid).1.false
    · exact ihu (h.nodup_children id) (List.Subset.refl _)
    · exact ihr (List.nodup_cons.mp hids).2 hrest
    · exact fun x hx hx' => hbeside x hx' (hbelow x hx).2

theorem Spans.nodup_of_children (h : t.Hung) (hs : t.Spans (t.children p) F) : F.flatten.Nodup :=
  hs.nodup_flatten h (h.nodup_children p) (List.Subset.refl _)

/-- There are no more nodes below a node than there are nodes. -/
theorem Spans.length_flatten_le (h : t.Hung) (hs : t.Spans (t.children p) F) :
    F.flatten.length ≤ t.size := by
  have hsub : F.flatten ⊆ List.range t.size := fun x hx =>
    List.mem_range.mpr (hs.lt_size_of_children h x hx)
  have hlen := ((hs.nodup_of_children h).subperm hsub).length_le
  rwa [List.length_range] at hlen

theorem spans_numbersBelow (h : t.Hung) (p : Nat) :
    t.Spans (t.children p) (t.numbersBelow p) := by
  obtain ⟨F, hs⟩ := exists_spans h (t.children p)
  rw [numbersBelow, hs.forestWithin_eq (hs.length_flatten_le h)]
  exact hs

theorem Spans.descendants_eq (hs : t.Spans (t.children p) F) (hn : F.flatten.length ≤ t.size) :
    t.descendants p = F.flatten := by
  obtain ⟨n, hn⟩ := Nat.exists_eq_add_of_le hn
  have hv := hs.visit_append [] n
  rw [List.append_nil] at hv
  rw [descendants, hn, hv]
  cases n <;> simp [visit]

/-- The walk with a stack meets the nodes in the pre-order of the recursive reading. -/
theorem descendants_eq_flatten (h : t.Hung) (p : Nat) :
    t.descendants p = (t.numbersBelow p).flatten :=
  (spans_numbersBelow h p).descendants_eq ((spans_numbersBelow h p).length_flatten_le h)

/-- Below a node are those to which steps from it lead. -/
theorem mem_descendants_iff_reaches (h : t.Hung) :
    x ∈ t.descendants p ↔ x ≠ p ∧ t.Reaches p x := by
  rw [descendants_eq_flatten h, (spans_numbersBelow h p).mem_flatten_iff_reaches]
  constructor
  · rintro ⟨c, hc, hcx⟩
    exact ⟨((h.lt_of_mem hc).trans_le (h.le_of_reaches hcx)).ne', hcx.head hc⟩
  · rintro ⟨hne, hpx⟩
    rcases Relation.ReflTransGen.cases_head hpx with rfl | hstep
    · exact absurd rfl hne
    · exact hstep

theorem mem_descendants_iff (h : t.Linked) :
    x ∈ t.descendants p ↔ x < t.size ∧ x ≠ p ∧ p ∈ t.ancestors x := by
  have hs := spans_numbersBelow h.hung p
  rw [descendants_eq_flatten h.hung]
  constructor
  · intro hx
    obtain ⟨hlt, hpx, hp⟩ := hs.below_of_mem_flatten h hx
    exact ⟨hlt, hpx.ne', hp⟩
  · rintro ⟨hlt, hne, hp⟩
    obtain ⟨c, hc, hcp⟩ := exists_child_mem_ancestors h hlt hp hne.symm
    exact (hs.mem_flatten_iff h hlt).mpr ⟨c, h.mem_children_iff.mpr hcp, hc⟩

end Marginalia.Tree
