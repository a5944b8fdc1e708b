import Marginalia.Proofs.Tree.Links

/-!
# The nodes above a node

In a hung tree `ancestors id` is `id` followed by the ancestors of the node above it
(`Hung.ancestors_eq_cons`). In a linked one the root is the last entry, the ancestors of an ancestor
are a suffix (`ancestors_suffix`), and a node attached later changes no list of ancestors but its
own (`ancestors_append`).
-/

namespace Marginalia.Tree

variable {t : Tree} {under id a c p : Nat} {node : Node}

theorem self_mem_ancestors (t : Tree) (id : Nat) : id ∈ t.ancestors id := by
  cases id with
  | zero => exact List.mem_cons_self
  | succ n => exact List.mem_cons_self

@[simp] theorem ancestors_root (t : Tree) : t.ancestors root = [root] := rfl

/-- A bound below which no climb ends early gives all ancestors. -/
theorem ancestorsWithin_eq (h : t.Hung) :
    ∀ n id, id ≤ n → t.ancestorsWithin n id = t.ancestors id := by
  intro n id
  induction id using Nat.strong_induction_on generalizing n with
  | _ id ih =>
    intro hn
    cases n with
    | zero =>
      rw [Nat.le_zero.mp hn]
      rfl
    | succ n =>
      cases id with
      | zero =>
        have hr : t.parent? 0 = none := by
          rw [Option.eq_none_iff_forall_ne_some]
          exact fun p hp => Nat.not_lt_zero p (h.lt_of_parent 0 p hp)
        simp only [ancestorsWithin, hr]
        rfl
      | succ m =>
        simp only [ancestors, ancestorsWithin]
        cases hp : t.parent? (m + 1) with
        | none => rfl
        | some p =>
          have hlt := h.lt_of_parent (m + 1) p hp
          simp only
          rw [ih p hlt n (by omega), ih p hlt m (by omega)]

theorem Hung.ancestors_eq_cons (h : t.Hung) (hp : t.parent? id = some p) :
    t.ancestors id = id :: t.ancestors p := by
  have hlt := h.lt_of_parent id p hp
  obtain ⟨m, rfl⟩ : ∃ m, id = m + 1 := ⟨id - 1, by omega⟩
  rw [← ancestorsWithin_eq h m p (by omega), ancestors, ancestorsWithin, hp]

theorem ancestors_eq_cons (h : t.Linked) (hp : t.parent? id = some p) :
    t.ancestors id = id :: t.ancestors p := h.hung.ancestors_eq_cons hp

/-- A child is one step deeper than the node above it. -/
theorem Hung.depth_eq (h : t.Hung) (hp : t.parent? id = some p) :
    t.depth id = t.depth p + 1 := by
  have hpos : 0 < (t.ancestors p).length := List.length_pos_of_mem (self_mem_ancestors t p)
  rw [depth, depth, h.ancestors_eq_cons hp, List.length_cons, Nat.add_sub_cancel,
    Nat.sub_add_cancel hpos]

theorem getLast?_ancestors (h : t.Linked) (hid : id < t.size) :
    (t.ancestors id).getLast? = some root := by
  induction id, hid using h.climb with
  | base => rfl
  | step id p hp ih => rw [ancestors_eq_cons h hp, List.getLast?_cons, ih, Option.getD_some]

theorem root_mem_ancestors (h : t.Linked) (hid : id < t.size) : root ∈ t.ancestors id :=
  List.mem_of_getLast? (getLast?_ancestors h hid)

/-- The ancestors of an ancestor come last among the ancestors. -/
theorem ancestors_suffix (h : t.Linked) (hid : id < t.size) (ha : a ∈ t.ancestors id) :
    t.ancestors a <:+ t.ancestors id := by
  induction id, hid using h.climb with
  | base =>
    rw [ancestors_root, List.mem_singleton] at ha
    subst ha
    exact List.suffix_rfl
  | step id p hp ih =>
    have hcons := ancestors_eq_cons h hp
    rw [hcons, List.mem_cons] at ha
    rcases ha with rfl | ha
    · exact List.suffix_rfl
    · rw [hcons]
      exact (ih ha).trans (List.suffix_cons id _)

theorem le_of_mem_ancestors (h : t.Linked) (hid : id < t.size) (ha : a ∈ t.ancestors id) :
    a ≤ id := by
  induction id, hid using h.climb with
  | base =>
    rw [ancestors_root, List.mem_singleton] at ha
    exact ha.le
  | step id p hp ih =>
    rw [ancestors_eq_cons h hp] at ha
    rcases List.mem_cons.mp ha with rfl | ha
    · exact le_rfl
    · exact (ih ha).trans (h.lt_of_parent hp).le

/-- Ancestors are listed from the newest to the root. -/
theorem ancestors_pairwise (h : t.Linked) (hid : id < t.size) :
    (t.ancestors id).Pairwise (· > ·) := by
  induction id, hid using h.climb with
  | base => exact List.pairwise_singleton _ _
  | step id p hp ih =>
    rw [ancestors_eq_cons h hp, List.pairwise_cons]
    refine ⟨fun a ha => ?_, ih⟩
    exact (le_of_mem_ancestors h (h.parent_lt_size hp) ha).trans_lt (h.lt_of_parent hp)

theorem parent_mem_ancestors (h : t.Linked) (hid : id < t.size) (hc : c ∈ t.ancestors id)
    (hp : t.parent? c = some p) : p ∈ t.ancestors id := by
  refine (ancestors_suffix h hid hc).subset ?_
  rw [ancestors_eq_cons h hp]
  exact List.mem_cons_of_mem _ (self_mem_ancestors t p)

/-- A climb to a node further up comes through one of its children. -/
theorem exists_child_mem_ancestors (h : t.Linked) (hid : id < t.size) (ha : a ∈ t.ancestors id)
    (hne : a ≠ id) : ∃ c ∈ t.ancestors id, t.parent? c = some a := by
  induction id, hid using h.climb with
  | base =>
    rw [ancestors_root, List.mem_singleton] at ha
    exact absurd ha hne
  | step id p hp ih =>
    rw [ancestors_eq_cons h hp] at ha ⊢
    have hap : a ∈ t.ancestors p := (List.mem_cons.mp ha).resolve_left hne
    by_cases hq : a = p
    · exact ⟨id, List.mem_cons_self, by rw [hp, hq]⟩
    · obtain ⟨c, hc, hca⟩ := ih hap hq
      exact ⟨c, List.mem_cons_of_mem _ hc, hca⟩

/-! ### After a node has been attached -/

theorem ancestors_append (h : t.Linked) (hu : under < t.size) (node : Node) (hid : id < t.size) :
    (t.append under node).ancestors id = t.ancestors id := by
  induction id, hid using h.climb with
  | base => rfl
  | step id p hp ih =>
    have hp' : (t.append under node).parent? id = some p := by
      rw [parent?_append hu, if_neg (Nat.ne_of_lt (Linked.lt_size_of_parent hp)), hp]
    rw [ancestors_eq_cons (linked_append h hu node) hp', ih, ancestors_eq_cons h hp]

theorem ancestors_append_self (h : t.Linked) (hu : under < t.size) (node : Node) :
    (t.append under node).ancestors t.size = t.size :: t.ancestors under := by
  have hp : (t.append under node).parent? t.size = some under := by
    rw [parent?_append hu, if_pos rfl]
  rw [ancestors_eq_cons (linked_append h hu node) hp, ancestors_append h hu node hu]

/-! ### Inserting by index -/

theorem lt_size_of_mem_ancestorsWithin (h : t.Hung) (n : Nat) (hid : id < t.size)
    (ha : a ∈ t.ancestorsWithin n id) : a < t.size := by
  induction n generalizing id with
  | zero =>
    rw [ancestorsWithin, List.mem_singleton] at ha
    rwa [ha]
  | succ n ih =>
    rw [ancestorsWithin, List.mem_cons] at ha
    rcases ha with rfl | ha
    · exact hid
    · cases hp : t.parent? id with
      | none =>
        rw [hp] at ha
        exact absurd ha List.not_mem_nil
      | some p =>
        rw [hp] at ha
        exact ih ((h.lt_of_parent id p hp).trans hid) ha

theorem placement_lt_size (h : t.Hung) (hl : t.last < t.size) (index : Int) :
    t.placement index < t.size := by
  unfold placement
  split_ifs
  · exact hl
  · dsimp only
    split
    · rename_i c _
      cases hp : t.parent? c with
      | none => exact h.root_lt
      | some p => exact (h.lt_of_parent c p hp).trans (Linked.lt_size_of_parent hp)
    · cases htop : (t.ancestors t.last).getLast? with
      | none => exact h.root_lt
      | some a => exact lt_size_of_mem_ancestorsWithin h _ hl (List.mem_of_getLast? htop)

/-- Inserting keeps a tree linked, wherever the nodes before were attached. -/
theorem linked_insert (h : t.Linked) (hl : t.last < t.size) (node : Node) :
    (t.insert node).Linked := linked_append h (placement_lt_size h.hung hl node.index) node

end Marginalia.Tree
