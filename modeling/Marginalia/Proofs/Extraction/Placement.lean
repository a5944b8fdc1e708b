import Marginalia.Proofs.Extraction.SourceOrder

/-!
# The place of every node

A line gives one node at most, and the node goes to one of two places. Annotations about the file
are kept apart, as the notation has them: no grammar takes part in them
(`configuration_feedAll_eq`). What goes into the tree is never such an annotation. Either it has
data of its own, after the grammars have been offered it, or it is a collected line: it hangs one
level below a node that asks for lines (`Tree.Collected`). The tree only grows, so a node that was
placed well stays so (`placed_feedAll`).
-/

namespace Marginalia

/-! ### Places in a tree -/

namespace Tree

variable {t t' : Tree} {id under : Nat} {node : Node}

/-- The node hangs directly below one that collects lines, one level deeper. -/
def Collected (t : Tree) (id : Nat) : Prop :=
  ∃ u, t.parent? id = some u ∧ (t.get u).appending = true ∧
    (t.get id).index = (t.get u).index + 1

/-- The node is no annotation about the file, and it has data or is a collected line. -/
structure Placed (t : Tree) (id : Nat) : Prop where
  configuration_eq : (t.get id).configuration = false
  data : (t.get id).hasData = true ∨ t.Collected id

theorem Collected.extends (h : t.Collected id) (ht : t.Linked) (hext : t.Extends t') :
    t'.Collected id := by
  obtain ⟨u, hp, ha, hi⟩ := h
  have hid := Linked.lt_size_of_parent hp
  have hu := ht.parent_lt_size hp
  refine ⟨u, ?_, ?_, ?_⟩
  · rw [hext.parent_eq id hid, hp]
  · rw [hext.get_eq u hu, ha]
  · rw [hext.get_eq id hid, hext.get_eq u hu, hi]

theorem Placed.extends (h : t.Placed id) (ht : t.Linked) (hid : id < t.size)
    (hext : t.Extends t') : t'.Placed id where
  configuration_eq := by rw [hext.get_eq id hid, h.configuration_eq]
  data := by
    rw [hext.get_eq id hid]
    exact h.data.imp_right fun hc => hc.extends ht hext

/-- All nodes below the root are in their places. -/
def AllPlaced (t : Tree) : Prop := ∀ id < t.size, id ≠ root → t.Placed id

theorem AllPlaced.empty : Tree.empty.AllPlaced := by
  intro id hid hr
  have hsize : Tree.empty.size = 1 := rfl
  rw [hsize] at hid
  exact absurd (Nat.lt_one_iff.mp hid) hr

theorem AllPlaced.append (h : t.AllPlaced) (ht : t.Linked) (hu : under < t.size)
    (hnew : (t.append under node).Placed t.size) : (t.append under node).AllPlaced := by
  intro id hid hr
  rw [size_append] at hid
  rcases Nat.lt_succ_iff_lt_or_eq.mp hid with hold | rfl
  · exact (h id hold hr).extends ht hold (extends_append hu node)
  · exact hnew

end Tree

namespace Extractor

variable {x y : Extractor} {s s' : Extract} {raw : Text}

/-! ### Annotations about the file -/

theorem Step.forall_mem_configuration {P : Node → Prop} (h : Step x s raw s')
    (hP : ∀ l lineNumber n, Node.Reading l lineNumber n → n.configuration = true → P n)
    (hold : ∀ n ∈ s.configuration, P n) : ∀ n ∈ s'.configuration, P n := by
  intro n hn
  rw [h.configuration_eq, List.mem_append] at hn
  rcases hn with hn | hn
  · exact hold n hn
  · split_ifs at hn with hconf
    · rw [List.mem_singleton.mp hn]
      exact hP _ _ _ (x.reading_bareNode s raw) hconf
    · cases hn

/-- What holds of every annotation about the file that the notation can give holds of all that a
file has. -/
theorem forall_mem_configuration {P : Node → Prop}
    (hP : ∀ l lineNumber n, Node.Reading l lineNumber n → n.configuration = true → P n)
    (x : Extractor) (lines : List Text) : ∀ n ∈ (x.feedAll {} lines).configuration, P n :=
  invariant_feedAll (P := fun s => ∀ n ∈ s.configuration, P n)
    (fun hstep _ hold => hstep.forall_mem_configuration hP hold) Tree.Grown.empty
    (fun _ hn => absurd hn List.not_mem_nil) lines

end Extractor

end Marginalia
