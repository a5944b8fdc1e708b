import Marginalia.Proofs.Tree.Growth
import Marginalia.Proofs.Tree.Traversal
import Mathlib.Data.List.Find

/-!
# Other data in the same tree

The data of all nodes may be changed while the links between the nodes stay (`mapNodes`). Walks
follow the links alone, so they meet the same numbers in the same order. Where a new node goes
depends on the indices of nodes below the root, and on nothing but how they compare: if all of them
change by the same amount, and the new index with them, then the place is the same
(`placement_mapNodes`). Plain lines are collected by the same node if no mark changes
(`appendingTarget_mapNodes`).
-/

namespace Marginalia

theorem Forest.map_map {α β γ : Type} (f : β → γ) (g : α → β) (F : Forest α) :
    (F.map g).map f = F.map fun a => f (g a) := by
  induction F with
  | nil => rfl
  | cons a under rest ihu ihr => rw [map, map, map, ihu, ihr]

namespace Tree

variable {t t' : Tree} {f : Nat → Node → Node} {id p under : Nat} {node node' : Node} {k : Int}

/-- Trees with the same slots and the same last node are the same. -/
theorem ext_slot (hsize : t.size = t'.size) (hlast : t.last = t'.last)
    (hslot : ∀ id < t.size, t.slot id = t'.slot id) : t = t' := by
  obtain ⟨slots, last⟩ := t
  obtain ⟨slots', last'⟩ := t'
  obtain rfl : last = last' := hlast
  have hslots : slots = slots' := by
    refine Array.ext hsize fun i hi hi' => ?_
    have heq := hslot i hi
    rwa [slot, slot, Array.getElem?_eq_getElem hi, Array.getElem?_eq_getElem hi', Option.getD_some,
      Option.getD_some] at heq
  rw [hslots]

/-- The tree with the data of each node changed, by a rule that may depend on the number of the
node. -/
def mapNodes (f : Nat → Node → Node) (t : Tree) : Tree :=
  { t with slots := t.slots.mapIdx fun id s => { s with node := f id s.node } }

/-! ### Links -/

@[simp] theorem size_mapNodes (f : Nat → Node → Node) (t : Tree) :
    (t.mapNodes f).size = t.size := Array.size_mapIdx

@[simp] theorem last_mapNodes (f : Nat → Node → Node) (t : Tree) :
    (t.mapNodes f).last = t.last := rfl

theorem slot_mapNodes (hid : id < t.size) :
    (t.mapNodes f).slot id = { t.slot id with node := f id (t.get id) } := by
  have hslots : id < t.slots.size := hid
  simp only [mapNodes, slot, get, Array.getElem?_mapIdx, Array.getElem?_eq_getElem hslots,
    Option.map_some, Option.getD_some]

theorem get_mapNodes (hid : id < t.size) : (t.mapNodes f).get id = f id (t.get id) := by
  rw [get, slot_mapNodes hid]

@[simp] theorem parent?_mapNodes (f : Nat → Node → Node) (t : Tree) (id : Nat) :
    (t.mapNodes f).parent? id = t.parent? id := by
  by_cases hid : id < t.size
  · rw [parent?, slot_mapNodes hid, parent?]
  · have hge := Nat.le_of_not_lt hid
    rw [parent?, slot_of_size_le (by rwa [size_mapNodes]), parent?, slot_of_size_le hge]

@[simp] theorem children_mapNodes (f : Nat → Node → Node) (t : Tree) (id : Nat) :
    (t.mapNodes f).children id = t.children id := by
  by_cases hid : id < t.size
  · rw [children, slot_mapNodes hid, children]
  · have hge := Nat.le_of_not_lt hid
    rw [children, slot_of_size_le (by rwa [size_mapNodes]), children, slot_of_size_le hge]

@[simp] theorem ancestors_mapNodes (f : Nat → Node → Node) (t : Tree) (id : Nat) :
    (t.mapNodes f).ancestors id = t.ancestors id := by
  have hwithin : ∀ n id, (t.mapNodes f).ancestorsWithin n id = t.ancestorsWithin n id := by
    intro n
    induction n with
    | zero => exact fun _ => rfl
    | succ n ih =>
      intro id
      rw [ancestorsWithin, ancestorsWithin, parent?_mapNodes]
      cases t.parent? id with
      | none => rfl
      | some above => simp only [ih]
  exact hwithin id id

/-- **Placement** asks how indices compare: if those below the root change by the same amount as the
new one, the place is the same. -/
theorem placement_mapNodes (h : t.WellFormed)
    (hf : ∀ id n, id ≠ root → (f id n).index = n.index + k) (index : Int) :
    (t.mapNodes f).placement (index + k) = t.placement index := by
  have hindex : ∀ id < t.size, id ≠ root →
      ((t.mapNodes f).get id).index = (t.get id).index + k := by
    intro id hid hr
    rw [get_mapNodes hid, hf id _ hr]
  have hlast : (t.last = root ∨ ((t.mapNodes f).get t.last).index < index + k) ↔
      (t.last = root ∨ (t.get t.last).index < index) := by
    by_cases hr : t.last = root
    · simp [hr]
    · rw [hindex t.last h.last_lt hr, Int.add_lt_add_iff_right]
  have hfind : ((t.ancestors t.last).find? fun id =>
        (t.parent? id).isSome && decide (((t.mapNodes f).get id).index ≤ index + k)) =
      (t.ancestors t.last).find? fun id =>
        (t.parent? id).isSome && decide ((t.get id).index ≤ index) := by
    refine List.find?_congr fun id _ => ?_
    cases hp : t.parent? id with
    | none => rfl
    | some p =>
      rw [hindex id (Linked.lt_size_of_parent hp) (h.ne_root_of_parent hp)]
      simp
  simp only [placement, last_mapNodes, hlast, ancestors_mapNodes, parent?_mapNodes, hfind]

theorem appendingTarget_mapNodes (h : t.WellFormed)
    (hf : ∀ id n, (f id n).appending = n.appending) :
    (t.mapNodes f).appendingTarget = t.appendingTarget := by
  rw [appendingTarget, appendingTarget, ancestors_mapNodes, last_mapNodes]
  refine List.find?_congr fun id hid => ?_
  rw [get_mapNodes (h.lt_size_of_mem_edge hid), hf]

/-- A node goes with its data changed below the node with its data changed. -/
theorem append_mapNodes (hu : under < t.size)
    (hnew : { node' with parent := (f under (t.get under)).line } =
      f t.size { node with parent := (t.get under).line }) :
    (t.mapNodes f).append under node' = (t.append under node).mapNodes f := by
  have hu' : under < (t.mapNodes f).size := by rwa [size_mapNodes]
  refine ext_slot (by simp) (by simp) fun id hid => ?_
  rw [size_append, size_mapNodes] at hid
  have hid' : id < (t.append under node).size := by rwa [size_append]
  rw [slot_append hu', slot_mapNodes hid', get_append hu, slot_append hu, size_mapNodes,
    get_mapNodes hu]
  split_ifs with hs hp
  · rw [hnew, hs]
  · rw [slot_mapNodes (by omega), children_mapNodes]
  · rw [slot_mapNodes (by omega)]

end Tree

end Marginalia
