import Marginalia.Tree
import Mathlib.Data.List.Nodup
import Mathlib.Data.Nat.Basic
import Mathlib.Logic.Relation
import Mathlib.Order.Basic
import Mathlib.Tactic.SplitIfs

/-!
# Links between the nodes of a tree

A tree is *linked* when its two records of who hangs below whom agree: every node but the root has
one node above it, which was attached before it, and stands once among the children of that node.
Attaching a node below any node of a linked tree gives a linked tree (`linked_append`).

In a linked tree a climb ends at the root, so facts about all nodes follow by going up one step at
a time (`Linked.climb`), and steps to a child lead from the root to every node (`reaches_root`).

Where nodes have been taken away, the lists of children still tell the truth, though they do not
tell all: such a tree is *hung*. That is enough for steps to a child to go apart and never to meet
again (`Hung.eq_of_reaches`).
-/

namespace Marginalia.Tree

variable {t : Tree} {under id p : Nat} {node : Node}

/-! ### Attaching one node -/

@[simp] theorem size_append (t : Tree) (under : Nat) (node : Node) :
    (t.append under node).size = t.size + 1 := by
  simp [append, size]

@[simp] theorem last_append (t : Tree) (under : Nat) (node : Node) :
    (t.append under node).last = t.size := rfl

theorem slot_of_size_le (h : t.size ≤ id) : t.slot id = {} := by
  unfold slot
  rw [Array.getElem?_eq_none h, Option.getD_none]

theorem slot_empty (id : Nat) : empty.slot id = {} := by
  rcases Nat.eq_zero_or_pos id with rfl | hid
  · rfl
  · exact slot_of_size_le hid

/-- The slots after a node has been attached: its own, that of the node above it, and the rest. -/
theorem slot_append (h : under < t.size) (node : Node) (id : Nat) :
    (t.append under node).slot id =
      if id = t.size then
        { node := { node with parent := (t.get under).line }, parent := some under }
      else if id = under then { t.slot id with children := t.children id ++ [t.size] }
      else t.slot id := by
  have hsize : t.slots.size = t.size := rfl
  simp only [append, slot, children, Array.getElem?_modify, Array.getElem?_push, hsize]
  rcases eq_or_ne id t.size with rfl | hid
  · rw [if_neg (Nat.ne_of_lt h), if_pos rfl, if_pos rfl]
    rfl
  · rcases eq_or_ne id under with rfl | hu
    · rw [if_pos rfl, if_neg hid, if_neg hid, if_pos rfl, Array.getElem?_eq_getElem h]
      rfl
    · rw [if_neg hu.symm, if_neg hid, if_neg hid, if_neg hu]

theorem get_append (h : under < t.size) (node : Node) (id : Nat) :
    (t.append under node).get id =
      if id = t.size then { node with parent := (t.get under).line } else t.get id := by
  unfold get
  rw [slot_append h]
  split_ifs <;> rfl

theorem parent?_append (h : under < t.size) (node : Node) (id : Nat) :
    (t.append under node).parent? id = if id = t.size then some under else t.parent? id := by
  unfold parent?
  rw [slot_append h]
  split_ifs <;> rfl

theorem children_append (h : under < t.size) (node : Node) (id : Nat) :
    (t.append under node).children id =
      if id = under then t.children id ++ [t.size] else t.children id := by
  unfold children
  rw [slot_append h]
  split_ifs with h₁ h₂ h₂
  · omega
  · rw [h₁, slot_of_size_le le_rfl]
  · rfl
  · rfl

/-! ### Linked trees -/

/-- The two records of who hangs below whom agree, and nodes above come before nodes below. -/
structure Linked (t : Tree) : Prop where
  /-- There is a root. -/
  root_lt : root < t.size
  /-- Nothing is above the root. -/
  parent_root : t.parent? root = none
  /-- Each other node hangs below one that was attached before it. -/
  parent_lt : ∀ id, id ≠ root → id < t.size → ∃ p, t.parent? id = some p ∧ p < id
  /-- A node stands once among the children of the node above it, and nowhere else. -/
  count_children : ∀ p id, (t.children p).count id = if t.parent? id = some p then 1 else 0

theorem linked_empty : Linked empty where
  root_lt := by decide
  parent_root := rfl
  parent_lt := by
    intro id hid hlt
    have : empty.size = 1 := rfl
    unfold root at hid
    omega
  count_children := by
    intro p id
    rw [children, parent?, slot_empty, slot_empty]
    rfl

namespace Linked

theorem lt_size_of_parent (hp : t.parent? id = some p) : id < t.size := by
  by_contra hid
  rw [parent?, slot_of_size_le (Nat.le_of_not_lt hid)] at hp
  cases hp

theorem ne_root_of_parent (h : t.Linked) (hp : t.parent? id = some p) : id ≠ root := by
  rintro rfl
  rw [h.parent_root] at hp
  cases hp

theorem lt_of_parent (h : t.Linked) (hp : t.parent? id = some p) : p < id := by
  obtain ⟨q, hq, hlt⟩ := h.parent_lt id (h.ne_root_of_parent hp) (lt_size_of_parent hp)
  rw [hp, Option.some.injEq] at hq
  omega

theorem parent_lt_size (h : t.Linked) (hp : t.parent? id = some p) : p < t.size :=
  (h.lt_of_parent hp).trans (lt_size_of_parent hp)

theorem mem_children_iff (h : t.Linked) : id ∈ t.children p ↔ t.parent? id = some p := by
  rw [← List.count_pos_iff, h.count_children p id]
  split_ifs with hp <;> simp [hp]

/-- **Climbing**: what holds of the root and passes from a node to those below it holds of all. -/
@[elab_as_elim] theorem climb {motive : ∀ id, id < t.size → Prop} (h : t.Linked)
    (base : motive root h.root_lt)
    (step : ∀ id p (hp : t.parent? id = some p), motive p (h.parent_lt_size hp) →
      motive id (lt_size_of_parent hp))
    (id : Nat) (hid : id < t.size) : motive id hid := by
  induction id using Nat.strong_induction_on with
  | _ id ih =>
    by_cases hr : id = root
    · subst hr
      exact base
    · obtain ⟨p, hp, hlt⟩ := h.parent_lt id hr hid
      exact step id p hp (ih p hlt (hlt.trans hid))

end Linked

/-- Attaching a node below any node keeps a tree linked. -/
theorem linked_append (h : t.Linked) (hu : under < t.size) (node : Node) :
    (t.append under node).Linked where
  root_lt := by
    rw [size_append]
    exact h.root_lt.trans (Nat.lt_succ_self _)
  parent_root := by
    rw [parent?_append hu, if_neg (Nat.ne_of_lt h.root_lt)]
    exact h.parent_root
  parent_lt := by
    intro id hid hlt
    rw [size_append] at hlt
    rw [parent?_append hu]
    split_ifs with hs
    · exact ⟨under, rfl, by omega⟩
    · exact h.parent_lt id hid (by omega)
  count_children := by
    intro q id
    have hnew : (t.children q).count t.size = 0 := by
      rw [h.count_children, if_neg]
      intro hq
      exact absurd (Linked.lt_size_of_parent hq) (lt_irrefl _)
    have hold := h.count_children q id
    rw [children_append hu, parent?_append hu]
    by_cases hs : id = t.size
    · rw [if_pos hs, hs]
      by_cases hq : q = under
      · rw [if_pos hq, if_pos (by rw [hq]), List.count_append, hnew, List.count_singleton_self]
      · rw [if_neg hq, hnew, if_neg]
        simpa using Ne.symm hq
    · rw [if_neg hs, ← hold]
      split_ifs with hq
      · rw [List.count_append, List.count_singleton, if_neg (by simpa using Ne.symm hs),
          Nat.add_zero]
      · rfl

/-- Steps to a child lead from one node to another. -/
def Reaches (t : Tree) : Nat → Nat → Prop := Relation.ReflTransGen fun a b => b ∈ t.children a

/-- Whoever stands in a list of children stands there once, and names the node above it, which is
older. -/
structure Hung (t : Tree) : Prop where
  /-- There is a root. -/
  root_lt : root < t.size
  /-- A node names one that was attached before it. -/
  lt_of_parent : ∀ id p, t.parent? id = some p → p < id
  /-- A child names the node above it. -/
  parent_of_mem : ∀ p, ∀ id ∈ t.children p, t.parent? id = some p
  /-- No child stands twice in a list. -/
  nodup_children : ∀ p, (t.children p).Nodup

theorem Linked.hung (h : t.Linked) : t.Hung where
  root_lt := h.root_lt
  lt_of_parent _ _ hp := h.lt_of_parent hp
  parent_of_mem _ _ hid := h.mem_children_iff.mp hid
  nodup_children p := by
    rw [List.nodup_iff_count_le_one]
    intro id
    rw [h.count_children]
    split_ifs <;> omega

namespace Hung

variable {a b x : Nat}

theorem lt_of_mem (h : t.Hung) (hid : id ∈ t.children p) : p < id :=
  h.lt_of_parent id p (h.parent_of_mem p id hid)

theorem lt_size_of_mem (h : t.Hung) (hid : id ∈ t.children p) : id < t.size :=
  Linked.lt_size_of_parent (h.parent_of_mem p id hid)

theorem le_of_reaches (h : t.Hung) (hax : t.Reaches a x) : a ≤ x := by
  induction hax with
  | refl => exact le_rfl
  | tail _ hc ih => exact ih.trans (h.lt_of_mem hc).le

/-- Of two nodes from which steps lead to a third one, one leads to the other. -/
theorem reaches_total (h : t.Hung) (hax : t.Reaches a x) (hbx : t.Reaches b x) :
    t.Reaches a b ∨ t.Reaches b a := by
  induction hax with
  | refl => exact Or.inr hbx
  | @tail y z hay hz ih =>
    rcases Relation.ReflTransGen.cases_tail hbx with rfl | ⟨q, hbq, hq⟩
    · exact Or.inl (hay.tail hz)
    · have hqy : some q = some y := by rw [← h.parent_of_mem q z hq, h.parent_of_mem y z hz]
      rw [Option.some.inj hqy] at hbq
      exact ih hbq

/-- At most one child of a node leads to a given one. -/
theorem eq_of_reaches (h : t.Hung) (ha : a ∈ t.children p) (hb : b ∈ t.children p)
    (hax : t.Reaches a x) (hbx : t.Reaches b x) : a = b := by
  have main : ∀ {a b : Nat}, a ∈ t.children p → b ∈ t.children p → t.Reaches a b → a = b := by
    intro a b ha hb hab
    rcases Relation.ReflTransGen.cases_tail hab with rfl | ⟨q, haq, hq⟩
    · rfl
    · -- the node above `b` is `p`, which is older than its child `a`
      have hqp : some q = some p := by rw [← h.parent_of_mem q b hq, h.parent_of_mem p b hb]
      rw [Option.some.inj hqp] at haq
      exact absurd (h.le_of_reaches haq) (Nat.not_le.mpr (h.lt_of_mem ha))
  rcases h.reaches_total hax hbx with hab | hba
  · exact main ha hb hab
  · exact (main hb ha hba).symm

end Hung

theorem reaches_root (h : t.Linked) (hid : id < t.size) : t.Reaches root id := by
  induction id, hid using h.climb with
  | base => exact Relation.ReflTransGen.refl
  | step id p hp ih => exact ih.tail (h.mem_children_iff.mpr hp)

end Marginalia.Tree
