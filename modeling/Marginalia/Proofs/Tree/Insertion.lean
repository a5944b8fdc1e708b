import Marginalia.Proofs.Tree.Levels
import Marginalia.Proofs.Tree.Order

/-!
# Inserting deeper nodes

Nodes are inserted one after the other, all deeper than a node `a` that was the last one before.
What the edge below `a` then looks like is told by the levels of their indices
(`openBelow_insert`). So a node stands below `a` exactly when the indices up to its own keep a level
open (`descendants_insertNodes`), and if the indices are nested, all of them do
(`descendants_insertNodes_of_nested`).
-/

namespace Marginalia

namespace Tree

variable {t t' : Tree} {a c id p under : Nat} {i : Int} {node : Node} {nodes : List Node}
  {above below : List Nat} {levels : List Int}

/-! ### Lists of ancestors -/

theorem ancestors_of_split (h : t.Linked) (hid : id < t.size)
    (hs : t.ancestors id = below ++ c :: above) : t.ancestors c = c :: above := by
  induction id, hid using h.climb generalizing below with
  | base =>
    rw [ancestors_root] at hs
    obtain ⟨rfl, hs⟩ | ⟨below', -, hs⟩ := List.cons_eq_append_iff.mp hs
    · obtain ⟨rfl, rfl⟩ := List.cons.inj hs
      rfl
    · exact absurd hs.symm (by simp)
  | step id p hp ih =>
    rw [ancestors_eq_cons h hp] at hs
    obtain ⟨rfl, hs⟩ | ⟨below', -, hs⟩ := List.cons_eq_append_iff.mp hs
    · obtain ⟨rfl, rfl⟩ := List.cons.inj hs
      exact ancestors_eq_cons h hp
    · exact ih hs

theorem exists_ancestors_eq_cons (t : Tree) (id : Nat) : ∃ above, t.ancestors id = id :: above := by
  cases id with
  | zero => exact ⟨[], rfl⟩
  | succ n => exact ⟨_, rfl⟩

theorem Extends.ancestors_eq (he : t.Extends t') (h : t.Linked) (h' : t'.Linked)
    (hid : id < t.size) : t'.ancestors id = t.ancestors id := by
  induction id, hid using h.climb with
  | base => rfl
  | step id p hp ih =>
    have hp' : t'.parent? id = some p := by
      rw [he.parent_eq id (Linked.lt_size_of_parent hp), hp]
    rw [ancestors_eq_cons h' hp', ih, ancestors_eq_cons h hp]

/-! ### The levels of a tree -/

/-- `a` is on the edge, and below it on the edge are nodes with these indices. -/
def OpenBelow (t : Tree) (a : Nat) (levels : List Int) : Prop :=
  ∃ below, t.edge = below ++ t.ancestors a ∧ below.map (fun id => (t.get id).index) = levels

theorem openBelow_last (t : Tree) : t.OpenBelow t.last [] := ⟨[], rfl, rfl⟩

theorem OpenBelow.mem_edge (h : t.OpenBelow a levels) : a ∈ t.edge := by
  obtain ⟨below, he, -⟩ := h
  rw [he]
  exact List.mem_append_right _ (self_mem_ancestors t a)

/-- A node appended below the edge node `under` is the first level of what it leaves open. -/
theorem openBelow_append (h : t.WellFormed) (ha : a ∈ t.edge) (hu : under < t.size)
    (hs : t.ancestors under = below ++ t.ancestors a) :
    (t.append under node).OpenBelow a
      (node.index :: below.map fun id => (t.get id).index) := by
  have hat := h.lt_size_of_mem_edge ha
  refine ⟨t.size :: below, ?_, ?_⟩
  · rw [edge_append h.toLinked hu, hs, ancestors_append h.toLinked hu node hat, List.cons_append]
  · rw [List.map_cons, get_append hu, if_pos rfl]
    congr 1
    refine List.map_congr_left fun id hid => ?_
    have hmem : id ∈ t.ancestors under := hs ▸ List.mem_append_left _ hid
    have hlt := (le_of_mem_ancestors h.toLinked hu hmem).trans_lt hu
    rw [get_append hu, if_neg hlt.ne]

/-- Where only deeper nodes are on the edge below `c`, a new node goes beside `c`. -/
theorem parent?_of_deeper_below (h : t.WellFormed) (he : t.edge = below ++ c :: above)
    (hc : c ≠ root) (hi : (t.get c).index ≤ i) (hbelow : ∀ b ∈ below, i < (t.get b).index)
    (hlast : i ≤ (t.get t.last).index) :
    t.parent? c = some (t.placement i) ∧ t.ancestors (t.placement i) = above := by
  have hce : c ∈ t.edge := he ▸ List.mem_append_right _ List.mem_cons_self
  have hp : t.parent? c = some (t.placement i) := by
    rcases h.placement_cases i with ⟨hl, -⟩ | ⟨-, ⟨c', hc', hp', hi', hb'⟩ | ⟨-, hb'⟩⟩
    · have hle := le_of_mem_ancestors h.toLinked h.last_lt hce
      rcases hl with hl | hl
      · rw [hl] at hle
        exact absurd (Nat.le_zero.mp hle) hc
      · omega
    · have hsorted := ancestors_pairwise h.toLinked h.last_lt
      rw [← edge, he, List.pairwise_append, List.pairwise_cons] at hsorted
      suffices c' = c by rwa [← this]
      rcases Nat.lt_trichotomy c c' with hlt | heq | hlt
      · -- a later node of the edge stands before `c`, so it is deeper
        rw [he, List.mem_append, List.mem_cons] at hc'
        rcases hc' with hc' | heq | hc'
        · have := hbelow c' hc'
          omega
        · exact heq
        · have := hsorted.2.1.1 c' hc'
          omega
      · exact heq.symm
      · have := hb' c hce hlt
        omega
    · have := hb' c hce hc
      omega
  refine ⟨hp, ?_⟩
  have hsplit := ancestors_of_split h.toLinked h.last_lt he
  rw [ancestors_eq_cons h.toLinked hp] at hsplit
  exact (List.cons.inj hsplit).2

/-- A node that is not deeper than the level `c` takes its place. -/
theorem openBelow_insert_of_split {low outer : List Nat} (h : t.WellFormed)
    (he : t.edge = low ++ c :: (outer ++ t.ancestors a)) (hi : (t.get c).index ≤ node.index)
    (hlow : ∀ b ∈ low, node.index < (t.get b).index)
    (hlast : node.index ≤ (t.get t.last).index) :
    (t.insert node).OpenBelow a (node.index :: outer.map fun id => (t.get id).index) := by
  have hu := h.lt_size_of_mem_edge (h.placement_mem_edge node.index)
  have hae : a ∈ t.edge := by
    rw [he]
    exact List.mem_append_right _
      (List.mem_cons_of_mem _ (List.mem_append_right _ (self_mem_ancestors t a)))
  have hcr : c ≠ root := by
    have hsorted := ancestors_pairwise h.toLinked h.last_lt
    rw [← edge, he, List.pairwise_append, List.pairwise_cons] at hsorted
    have := hsorted.2.1.1 a (List.mem_append_right _ (self_mem_ancestors t a))
    unfold root
    omega
  obtain ⟨-, hanc⟩ := parent?_of_deeper_below h he hcr hi hlow hlast
  exact openBelow_append h hae hu hanc

/-- A node that all levels are deeper than goes beside `a`. -/
theorem not_mem_edge_insert (h : t.WellFormed) (ha : a ≠ root)
    (he : t.edge = below ++ t.ancestors a) (hi : (t.get a).index ≤ node.index)
    (hlow : ∀ b ∈ below, node.index < (t.get b).index)
    (hlast : node.index ≤ (t.get t.last).index) : a ∉ (t.insert node).edge := by
  have hu := h.lt_size_of_mem_edge (h.placement_mem_edge node.index)
  obtain ⟨above, habove⟩ := exists_ancestors_eq_cons t a
  rw [habove] at he
  obtain ⟨hp, -⟩ := parent?_of_deeper_below h he ha hi hlow hlast
  have hat : a < t.size := Linked.lt_size_of_parent hp
  rw [insert, edge_append h.toLinked hu, List.mem_cons, not_or]
  refine ⟨hat.ne, fun hmem => ?_⟩
  have hle := le_of_mem_ancestors h.toLinked hu hmem
  have hlt := h.lt_of_parent hp
  omega

/-- **Levels**: inserting a node does to the edge below a shallower node what `Levels.next` does to
its levels. -/
theorem openBelow_insert (h : t.WellFormed) (ha : a ≠ root) (ho : t.OpenBelow a levels)
    (hi : (t.get a).index < node.index) :
    match Levels.next levels node.index with
    | some levels' => (t.insert node).OpenBelow a levels'
    | none => a ∉ (t.insert node).edge := by
  have hae := ho.mem_edge
  obtain ⟨below, he, rfl⟩ := ho
  obtain ⟨above, habove⟩ := exists_ancestors_eq_cons t a
  obtain ⟨rest, hrest⟩ := exists_ancestors_eq_cons t t.last
  have hhead : ∀ deepest ∈ (below.map fun id => (t.get id).index).head?,
      deepest = (t.get t.last).index := by
    intro deepest hd
    cases below with
    | nil => cases hd
    | cons b below =>
      rw [List.map_cons, List.head?_cons, Option.mem_some] at hd
      rw [← hd, (List.cons.inj (he.symm.trans hrest)).1]
  by_cases hdeep : t.last = a ∨ (t.get t.last).index < node.index
  · -- a new level
    have hlt : (t.get t.last).index < node.index := by
      rcases hdeep with rfl | hlt
      · exact hi
      · exact hlt
    have hp : t.placement node.index = t.last := by rw [placement, if_pos (Or.inr hlt)]
    rw [Levels.next_of_lt]
    · exact openBelow_append h hae (by rw [hp]; exact h.last_lt) (by rw [hp]; exact he)
    · intro deepest hd
      rwa [hhead deepest hd]
  · rw [not_or, Int.not_lt] at hdeep
    cases hf : below.find? fun id => decide ((t.get id).index ≤ node.index) with
    | none =>
      have hlow : ∀ b ∈ below, node.index < (t.get b).index := fun b hb => by
        simpa using List.find?_eq_none.mp hf b hb
      have hne : below ≠ [] := by
        rintro rfl
        exact hdeep.1 (List.cons.inj (hrest.symm.trans (he.trans habove))).1
      rw [Levels.next_eq_none (by simpa using hne) (by simpa using hlow)]
      exact not_mem_edge_insert h ha he hi.le hlow hdeep.2
    | some c =>
      obtain ⟨hc, low, outer, rfl, hlow⟩ := List.find?_eq_some_iff_append.mp hf
      have hlow : ∀ b ∈ low, node.index < (t.get b).index := fun b hb => by
        simpa using hlow b hb
      rw [decide_eq_true_eq] at hc
      rw [List.append_assoc, List.cons_append] at he
      rw [List.map_append, List.map_cons] at hhead ⊢
      rw [Levels.next_of_split (by simpa using hlow) hc fun deepest hd => by
        rw [hhead deepest hd]
        exact hdeep.2]
      exact openBelow_insert_of_split h he hc hlow hdeep.2

/-! ### Many nodes -/

/-- Inserts nodes in order. -/
def insertNodes (t : Tree) (nodes : List Node) : Tree := nodes.foldl insert t

theorem insertNodes_cons (t : Tree) (node : Node) (nodes : List Node) :
    t.insertNodes (node :: nodes) = (t.insert node).insertNodes nodes := List.foldl_cons

theorem insertNodes_concat (t : Tree) (nodes : List Node) (node : Node) :
    t.insertNodes (nodes ++ [node]) = (t.insertNodes nodes).insert node := by
  rw [insertNodes, List.foldl_append]
  rfl

theorem grown_insertNodes (h : t.Grown) (nodes : List Node) : (t.insertNodes nodes).Grown := by
  induction nodes generalizing t with
  | nil => exact h
  | cons node nodes ih => exact ih (grown_insert h node)

theorem extends_insertNodes (h : t.Grown) (nodes : List Node) :
    t.Extends (t.insertNodes nodes) := by
  induction nodes generalizing t with
  | nil => exact Extends.refl t
  | cons node nodes ih => exact (extends_insert h.wellFormed node).trans (ih (grown_insert h node))

@[simp] theorem size_insertNodes (t : Tree) (nodes : List Node) :
    (t.insertNodes nodes).size = t.size + nodes.length := by
  induction nodes generalizing t with
  | nil => rfl
  | cons node nodes ih =>
    rw [insertNodes_cons, ih, insert, size_append, List.length_cons]
    omega

/-- The levels below the last node, after nodes deeper than it have been inserted. -/
theorem openBelow_insertNodes (h : t.Grown) (hr : t.last ≠ root)
    (hi : ∀ node ∈ nodes, (t.get t.last).index < node.index) :
    match Levels.after (nodes.map (·.index)) with
    | some levels => (t.insertNodes nodes).OpenBelow t.last levels
    | none => t.last ∉ (t.insertNodes nodes).edge := by
  induction nodes using List.reverseRecOn with
  | nil => exact openBelow_last t
  | append_singleton nodes node ih =>
    have hwf := (grown_insertNodes h nodes).wellFormed
    have hprev := ih fun n hn => hi n (List.mem_append_left _ hn)
    have hnode : ((t.insertNodes nodes).get t.last).index < node.index := by
      rw [(extends_insertNodes h nodes).get_eq _ h.wellFormed.last_lt]
      exact hi node (List.mem_append_right _ List.mem_cons_self)
    rw [insertNodes_concat, List.map_append, List.map_singleton, Levels.after_concat]
    cases hl : Levels.after (nodes.map (·.index)) with
    | some levels =>
      rw [hl] at hprev
      exact openBelow_insert hwf hr hprev hnode
    | none =>
      rw [hl] at hprev
      -- a node that has left the edge does not come back
      have hu := hwf.placement_mem_edge node.index
      have hus := hwf.lt_size_of_mem_edge hu
      have hlast := h.wellFormed.last_lt.trans_le (extends_insertNodes h nodes).size_le
      rw [Option.bind_none, insert, edge_append hwf.toLinked hus, List.mem_cons, not_or]
      exact ⟨hlast.ne, fun hmem =>
        hprev ((ancestors_suffix hwf.toLinked hwf.last_lt hu).subset hmem)⟩

/-- Of nodes inserted after a shallower one, those stand below it up to which the indices keep a
level open. -/
theorem mem_ancestors_insertNodes_iff (h : t.Grown) (hr : t.last ≠ root)
    (hi : ∀ node ∈ nodes, (t.get t.last).index < node.index) {m : Nat} (hm : m < nodes.length) :
    t.last ∈ (t.insertNodes nodes).ancestors (t.size + m) ↔
      (Levels.after ((nodes.take (m + 1)).map (·.index))).isSome := by
  have hsplit : t.insertNodes nodes =
      (t.insertNodes (nodes.take (m + 1))).insertNodes (nodes.drop (m + 1)) := by
    rw [insertNodes, insertNodes, insertNodes, ← List.foldl_append, List.take_append_drop]
  have hg := grown_insertNodes h (nodes.take (m + 1))
  have hsize : (t.insertNodes (nodes.take (m + 1))).size = t.size + m + 1 := by
    rw [size_insertNodes, List.length_take]
    omega
  have hlast : (t.insertNodes (nodes.take (m + 1))).last = t.size + m := by
    have := hg.wellFormed.last_eq
    omega
  have hanc : (t.insertNodes nodes).ancestors (t.size + m) =
      (t.insertNodes (nodes.take (m + 1))).edge := by
    rw [hsplit, (extends_insertNodes hg _).ancestors_eq hg.wellFormed.toLinked
      (grown_insertNodes hg _).wellFormed.toLinked (by omega), edge, hlast]
  have hopen := openBelow_insertNodes h hr
    fun node hn => hi node (List.mem_of_mem_take (i := m + 1) hn)
  rw [hanc]
  cases hl : Levels.after ((nodes.take (m + 1)).map (·.index)) with
  | some levels =>
    rw [hl] at hopen
    exact ⟨fun _ => rfl, fun _ => OpenBelow.mem_edge hopen⟩
  | none =>
    rw [hl] at hopen
    exact ⟨fun hmem => absurd hmem hopen, fun hsome => absurd hsome (by simp)⟩

/-- Inserted nodes are found in their order, but for the line of the node above, which a node takes
down when it is placed. -/
theorem map_get_insertNodes {β : Type} (h : t.Grown) (f : Node → β)
    (hf : ∀ n line, f { n with parent := line } = f n) {n : Nat} (hn : n ≤ nodes.length) :
    ((List.range' t.size n).map fun id => f ((t.insertNodes nodes).get id)) =
      (nodes.take n).map f := by
  induction nodes using List.reverseRecOn generalizing n with
  | nil =>
    rw [Nat.le_zero.mp hn]
    rfl
  | append_singleton nodes node ih =>
    have hwf := (grown_insertNodes h nodes).wellFormed
    have hext := extends_insert hwf node
    have hold : ∀ k ≤ nodes.length,
        ((List.range' t.size k).map fun id => f (((t.insertNodes nodes).insert node).get id)) =
          (nodes.take k).map f := by
      intro k hk
      rw [← ih hk]
      refine List.map_congr_left fun id hid => ?_
      rw [List.mem_range'_1] at hid
      rw [hext.get_eq id (by rw [size_insertNodes]; omega)]
    rw [insertNodes_concat]
    rw [List.length_append, List.length_singleton] at hn
    by_cases hnew : n ≤ nodes.length
    · rw [hold n hnew, List.take_append_of_le_length hnew]
    · have hnlen : n = nodes.length + 1 := by omega
      subst hnlen
      have hlast : f (((t.insertNodes nodes).insert node).get (t.size + nodes.length)) =
          f node := by
        rw [insert, get_append (hwf.lt_size_of_mem_edge (hwf.placement_mem_edge _)),
          size_insertNodes, if_pos rfl, hf]
      have hprev := hold nodes.length le_rfl
      rw [List.take_length] at hprev
      rw [List.take_of_length_le (by simp), List.map_append, List.map_singleton, ← hprev,
        List.range'_concat, List.map_append, List.map_singleton, Nat.one_mul, hlast]

/-- The indices of `n` nodes from the number `id` on. -/
def indices (t : Tree) (id n : Nat) : List Int :=
  (List.range' id n).map fun id => (t.get id).index

theorem indices_insertNodes (h : t.Grown) {n : Nat} (hn : n ≤ nodes.length) :
    (t.insertNodes nodes).indices t.size n = (nodes.take n).map (·.index) :=
  map_get_insertNodes h (·.index) (fun _ _ => rfl) hn

/-- **Nodes below the last one**: of deeper nodes inserted after it there are below it, in
pre-order, those up to which the indices keep a level open. -/
theorem descendants_insertNodes (h : t.Grown) (hr : t.last ≠ root)
    (hi : ∀ node ∈ nodes, (t.get t.last).index < node.index) :
    (t.insertNodes nodes).descendants t.last =
      (List.range' t.size nodes.length).filter fun id =>
        (Levels.after ((t.insertNodes nodes).indices t.size (id - t.last))).isSome := by
  have hlast := h.wellFormed.last_eq
  have hg := grown_insertNodes h nodes
  have hsize : (t.insertNodes nodes).size = t.size + nodes.length := size_insertNodes t nodes
  have hrange : List.range (t.insertNodes nodes).size =
      List.range t.size ++ List.range' t.size nodes.length := by
    rw [hsize, List.range_eq_range', List.range_eq_range', ← List.range'_append_1, Nat.zero_add]
  have hbefore : ((List.range t.size).filter fun y =>
      y ≠ t.last ∧ t.last ∈ (t.insertNodes nodes).ancestors y) = [] := by
    rw [List.filter_eq_nil_iff]
    intro y hy
    rw [List.mem_range] at hy
    rw [decide_eq_true_eq]
    rintro ⟨hya, hmem⟩
    have := le_of_mem_ancestors hg.wellFormed.toLinked (by omega) hmem
    omega
  rw [hg.descendants_eq_filter, hrange, List.filter_append, hbefore, List.nil_append]
  refine List.filter_congr fun y hy => ?_
  rw [List.mem_range'_1] at hy
  obtain ⟨m, rfl⟩ : ∃ m, y = t.size + m := ⟨y - t.size, by omega⟩
  rw [show t.size + m - t.last = m + 1 by omega, indices_insertNodes h (by omega), Bool.eq_iff_iff,
    decide_eq_true_eq, ← mem_ancestors_insertNodes_iff h hr hi (by omega)]
  exact and_iff_right (by omega)

end Tree

end Marginalia
