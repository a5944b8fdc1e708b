import Marginalia.Proofs.Tree.Built

/-!
# What collapsing leaves of a tree

A node is *uncovered* when no marked node stands above it, the root set apart. Collapsing works
through the tree node by node and reads values off a tree that is changed already. But what it reads
then is untouched: the marked nodes that it meets are uncovered, so nothing below one of them was
collapsed before. Hence collapsing them one after the other collapses each as it is in the tree at
the start (`slot_collapse`).

Of a tree whose root is not marked there remain the uncovered nodes, where they were; the marked
ones among them have become leaves with their joined values, and nothing is left to collapse
(`collapse_exact`).
-/

namespace Marginalia

namespace Forest

variable {p : Nat → Bool} {F : Forest Nat} {x : Nat}

/-- The forest without what stands below marked nodes. -/
def prune (p : Nat → Bool) : Forest Nat → Forest Nat
  | nil => nil
  | cons a under rest => cons a (if p a then nil else under.prune p) (rest.prune p)

/-- The marked nodes that are not below other ones, in pre-order. -/
def outermost (p : Nat → Bool) : Forest Nat → List Nat
  | nil => []
  | cons a under rest => (if p a then [a] else under.outermost p) ++ rest.outermost p

theorem flatten_prune_sublist (p : Nat → Bool) (F : Forest Nat) :
    (F.prune p).flatten.Sublist F.flatten := by
  induction F with
  | nil => exact List.Sublist.refl _
  | cons a under rest ihu ihr =>
    simp only [prune, flatten, List.cons_append]
    refine List.Sublist.cons_cons a (List.Sublist.append ?_ ihr)
    split_ifs
    · exact List.nil_sublist _
    · exact ihu

/-- The outermost marked nodes are the marked ones that pruning leaves. -/
theorem mem_outermost_iff : x ∈ F.outermost p ↔ x ∈ (F.prune p).flatten ∧ p x = true := by
  induction F with
  | nil => simp [outermost, prune, flatten]
  | cons a under rest ihu ihr =>
    simp only [outermost, prune, flatten, List.cons_append, List.mem_append, List.mem_cons, ihr]
    by_cases ha : p a = true
    · simp only [ha, if_true, List.mem_singleton, flatten, List.not_mem_nil, false_or]
      constructor
      · rintro (rfl | h)
        · exact ⟨Or.inl rfl, ha⟩
        · exact ⟨Or.inr h.1, h.2⟩
      · rintro ⟨rfl | h, hx⟩
        · exact Or.inl rfl
        · exact Or.inr ⟨h, hx⟩
    · simp only [ha, if_false, Bool.false_eq_true, ihu]
      constructor
      · rintro (h | h)
        · exact ⟨Or.inr (Or.inl h.1), h.2⟩
        · exact ⟨Or.inr (Or.inr h.1), h.2⟩
      · rintro ⟨rfl | h | h, hx⟩
        · exact absurd hx ha
        · exact Or.inl ⟨h, hx⟩
        · exact Or.inr ⟨h, hx⟩

end Forest

namespace Tree

variable {t t' : Tree} {id p x n : Nat} {ids : List Nat} {F : Forest Nat} {S : Nat → Prop}

/-- The node is marked to be collapsed. -/
def marked (t : Tree) (id : Nat) : Bool := (t.get id).collapsing

/-- No marked node is above the node, the root set apart. -/
def Uncovered (t : Tree) (id : Nat) : Prop :=
  ∀ a ∈ t.ancestors id, a ≠ id → a ≠ root → (t.get a).collapsing = false

instance (t : Tree) (id : Nat) : Decidable (t.Uncovered id) :=
  inferInstanceAs (Decidable (∀ a ∈ t.ancestors id, a ≠ id → a ≠ root → _ = false))

/-- A node as a leaf with the joined values of the nodes below it. -/
def collapsedSlot (t : Tree) (id : Nat) : Slot :=
  { node := { t.get id with
      value := t.collapsedValue id, collapsing := false, appending := false }
    parent := t.parent? id
    children := [] }

/-! ### One node -/

theorem size_collapseNode (t : Tree) (id : Nat) : (t.collapseNode id).size = t.size := by
  simp [collapseNode, clearChildren, set, size]

theorem slot_collapseNode (hid : id < t.size) (x : Nat) :
    (t.collapseNode id).slot x = if x = id then t.collapsedSlot id else t.slot x := by
  simp only [collapseNode, clearChildren, set, slot, Array.getElem?_modify]
  rcases eq_or_ne x id with rfl | hx
  · rw [if_pos rfl, if_pos rfl, if_pos rfl, Array.getElem?_eq_getElem hid]
    simp [collapsedSlot, get, parent?, slot, Array.getElem?_eq_getElem hid]
  · rw [if_neg hx.symm, if_neg hx.symm, if_neg hx]

/-! ### Several nodes at once -/

/-- `t'` is `t` with the nodes of `S` collapsed, each as it is in `t`. -/
structure CollapsedAt (t : Tree) (S : Nat → Prop) (t' : Tree) : Prop where
  size_eq : t'.size = t.size
  slot_of_mem : ∀ x, S x → t'.slot x = t.collapsedSlot x
  slot_of_not_mem : ∀ x, ¬ S x → t'.slot x = t.slot x

theorem CollapsedAt.congr {S' : Nat → Prop} (h : t.CollapsedAt S t') (hS : ∀ x, S x ↔ S' x) :
    t.CollapsedAt S' t' where
  size_eq := h.size_eq
  slot_of_mem x hx := h.slot_of_mem x ((hS x).mpr hx)
  slot_of_not_mem x hx := h.slot_of_not_mem x (mt (hS x).mp hx)

theorem CollapsedAt.get_eq (h : t.CollapsedAt S t') (hx : ¬ S x) : t'.get x = t.get x := by
  rw [get, get, h.slot_of_not_mem x hx]

theorem CollapsedAt.children_eq (h : t.CollapsedAt S t') (hx : ¬ S x) :
    t'.children x = t.children x := by
  rw [children, children, h.slot_of_not_mem x hx]

/-- The joined value of a node is not touched by what is collapsed beside it. -/
theorem CollapsedAt.collapsedValue_eq (h : t.CollapsedAt S t') (hs : t.Spans (t.children id) F)
    (hn : F.flatten.length ≤ t.size) (hid : ¬ S id) (hF : ∀ x ∈ F.flatten, ¬ S x) :
    t'.collapsedValue id = t.collapsedValue id := by
  have hs' : t'.Spans (t'.children id) F := by
    rw [h.children_eq hid]
    exact hs.congr fun x hx => h.children_eq (hF x hx)
  have hd : t'.descendants id = t.descendants id := by
    rw [hs'.descendants_eq (h.size_eq ▸ hn), hs.descendants_eq hn]
  have hmap : (t.descendants id).map t'.get = (t.descendants id).map t.get := by
    refine List.map_congr_left fun x hx => h.get_eq (hF x ?_)
    rwa [hs.descendants_eq hn] at hx
  rw [collapsedValue, collapsedValue, hd, hmap, h.get_eq hid]

theorem CollapsedAt.collapseNode (h : t.CollapsedAt S t') (hs : t.Spans (t.children id) F)
    (hn : F.flatten.length ≤ t.size) (hlt : id < t.size) (hid : ¬ S id)
    (hF : ∀ x ∈ F.flatten, ¬ S x) :
    t.CollapsedAt (fun x => x = id ∨ S x) (t'.collapseNode id) := by
  have hslot := slot_collapseNode (t := t') (h.size_eq ▸ hlt)
  have hself : t'.collapsedSlot id = t.collapsedSlot id := by
    simp only [collapsedSlot, h.collapsedValue_eq hs hn hid hF, h.get_eq hid, parent?,
      h.slot_of_not_mem id hid]
  refine ⟨?_, fun x hx => ?_, fun x hx => ?_⟩
  · rw [size_collapseNode, h.size_eq]
  · rw [hslot]
    split_ifs with hxid
    · rw [hself, hxid]
    · exact h.slot_of_mem x (hx.resolve_left hxid)
  · rw [not_or] at hx
    rw [hslot, if_neg hx.1, h.slot_of_not_mem x hx.2]

/-- Working through a forest collapses its outermost marked nodes at once. -/
theorem CollapsedAt.collapseWithin (h : t.CollapsedAt S t') (hs : t.Spans ids F)
    (hn : F.flatten.length ≤ n) (hsize : F.flatten.length ≤ t.size) (hnd : F.flatten.Nodup)
    (hF : ∀ x ∈ F.flatten, x < t.size ∧ ¬ S x) :
    t.CollapsedAt (fun x => x ∈ F.outermost t.marked ∨ S x) (collapseWithin n ids t') := by
  induction hs generalizing n S t' with
  | nil =>
    have hkeep : Tree.collapseWithin n [] t' = t' := by cases n <;> rfl
    rw [hkeep]
    exact h.congr fun x => by simp [Forest.outermost]
  | @cons id ids under rest hu hr ihu ihr =>
    simp only [Forest.flatten, List.cons_append, List.length_cons, List.length_append] at hn hsize
    simp only [Forest.flatten, List.cons_append, List.nodup_cons, List.mem_append, not_or,
      List.nodup_append] at hnd
    simp only [Forest.flatten, List.cons_append, List.mem_cons, List.mem_append] at hF
    obtain ⟨⟨hidu, hidr⟩, hndu, hndr, hdisj⟩ := hnd
    obtain ⟨hidlt, hidS⟩ := hF id (Or.inl rfl)
    obtain ⟨m, rfl⟩ : ∃ m, n = m + 1 := ⟨n - 1, by omega⟩
    rw [Tree.collapseWithin, h.get_eq hidS]
    by_cases hmark : (t.get id).collapsing = true
    · rw [if_pos hmark]
      have h₁ := h.collapseNode hu (by omega) hidlt hidS fun x hx => (hF x (Or.inr (Or.inl hx))).2
      refine (ihr h₁ (by omega) (by omega) hndr fun x hx => ?_).congr fun x => ?_
      · obtain ⟨hlt, hS⟩ := hF x (Or.inr (Or.inr hx))
        exact ⟨hlt, not_or.mpr ⟨fun heq => hidr (heq ▸ hx), hS⟩⟩
      · simp only [Forest.outermost, marked, hmark, if_true, List.singleton_append, List.mem_cons]
        tauto
    · rw [if_neg hmark, h.children_eq hidS]
      have h₁ := ihu h (n := m) (by omega) (by omega) hndu fun x hx => hF x (Or.inr (Or.inl hx))
      refine (ihr h₁ (by omega) (by omega) hndr fun x hx => ?_).congr fun x => ?_
      · obtain ⟨hlt, hS⟩ := hF x (Or.inr (Or.inr hx))
        refine ⟨hlt, not_or.mpr ⟨fun hmem => ?_, hS⟩⟩
        have hxu := (Forest.flatten_prune_sublist _ _).subset (Forest.mem_outermost_iff.mp hmem).1
        exact hdisj x hxu x hx rfl
      · simp only [Forest.outermost, marked, hmark, if_false, Bool.false_eq_true, List.mem_append]
        tauto

/-! ### Uncovered nodes -/

theorem uncovered_iff_parent (h : t.Linked) (hp : t.parent? id = some p) :
    t.Uncovered id ↔ t.Uncovered p ∧ (p = root ∨ (t.get p).collapsing = false) := by
  have hlt := h.lt_of_parent hp
  simp only [Uncovered, ancestors_eq_cons h hp, List.mem_cons, forall_eq_or_imp, ne_eq,
    not_true_eq_false, false_implies, true_and]
  constructor
  · intro hun
    refine ⟨fun a ha _ har => ?_, ?_⟩
    · have := le_of_mem_ancestors h (h.parent_lt_size hp) ha
      exact hun a ha (by omega) har
    · by_cases hpr : p = root
      · exact Or.inl hpr
      · exact Or.inr (hun p (self_mem_ancestors t p) (by omega) hpr)
  · rintro ⟨hun, hpm⟩ a ha _ har
    by_cases hap : a = p
    · subst hap
      exact hpm.resolve_left har
    · exact hun a ha hap har

theorem uncovered_root (t : Tree) : t.Uncovered root := by
  intro a ha hne
  rw [ancestors_root, List.mem_singleton] at ha
  exact absurd ha hne

/-- Pruning below the marked nodes leaves the uncovered ones. -/
theorem Spans.flatten_prune_eq (h : t.Linked) (hs : t.Spans ids F)
    (hp : ∀ id ∈ ids, t.parent? id = some p)
    (hun : t.Uncovered p ∧ (p = root ∨ (t.get p).collapsing = false)) :
    (F.prune t.marked).flatten = F.flatten.filter (t.Uncovered ·) := by
  induction hs generalizing p with
  | nil => rfl
  | @cons id ids under rest hu hr ihu ihr =>
    have hidp := hp id List.mem_cons_self
    have hid : t.Uncovered id := (uncovered_iff_parent h hidp).mpr hun
    have hch : ∀ c ∈ t.children id, t.parent? c = some id := fun c hc => h.mem_children_iff.mp hc
    rw [Forest.prune, Forest.flatten, Forest.flatten, List.cons_append, List.cons_append,
      List.filter_cons_of_pos (by simpa using hid), List.filter_append,
      ihr (fun c hc => hp c (List.mem_cons_of_mem _ hc)) hun]
    congr 2
    by_cases hmark : (t.get id).collapsing = true
    · rw [if_pos (show t.marked id = true from hmark), Forest.flatten, eq_comm,
        List.filter_eq_nil_iff]
      intro x hx hxun
      rw [decide_eq_true_eq] at hxun
      -- a covered node has the marked one above it
      obtain ⟨-, hlt, hidx⟩ := hu.below_of_mem_flatten h hx
      have := hxun id hidx hlt.ne (h.ne_root_of_parent hidp)
      rw [hmark] at this
      cases this
    · rw [if_neg (show ¬ t.marked id = true from hmark)]
      exact ihu hch ⟨hid, Or.inr (Bool.not_eq_true _ ▸ hmark)⟩

/-! ### The whole tree -/

/-- **Collapsing at once**: each marked uncovered node becomes a leaf with its value in the tree at
the start, and no other node changes. -/
theorem slot_collapse (h : t.Linked) (hr : (t.get root).collapsing = false) (x : Nat) :
    t.collapse.slot x =
      if (t.get x).collapsing = true ∧ t.Uncovered x then t.collapsedSlot x else t.slot x := by
  have hs := spans_numbersBelow h.hung root
  have hch : ∀ c ∈ t.children root, t.parent? c = some root := fun c hc => h.mem_children_iff.mp hc
  have hlen := hs.length_flatten_le h.hung
  have hstart : t.CollapsedAt (fun _ => False) t := ⟨rfl, fun _ hx => hx.elim, fun _ _ => rfl⟩
  have hat := hstart.collapseWithin hs hlen hlen (hs.nodup_of_children h.hung)
    fun x hx => ⟨hs.lt_size_of_children h.hung x hx, id⟩
  have hmem : x ∈ (t.numbersBelow root).outermost t.marked ↔
      (t.get x).collapsing = true ∧ t.Uncovered x := by
    rw [Forest.mem_outermost_iff,
      hs.flatten_prune_eq h hch ⟨uncovered_root t, Or.inl rfl⟩, List.mem_filter,
      ← descendants_eq_flatten h.hung, mem_descendants_iff h, decide_eq_true_eq, and_comm]
    refine and_congr_right fun hx => and_iff_right_of_imp fun _ => ?_
    have hxr : x ≠ root := by
      rintro rfl
      rw [marked, hr] at hx
      cases hx
    have hlt : x < t.size := by
      by_contra hge
      rw [marked, get, slot_of_size_le (Nat.le_of_not_lt hge)] at hx
      cases hx
    exact ⟨hlt, hxr, root_mem_ancestors h hlt⟩
  split_ifs with hx
  · exact hat.slot_of_mem x (Or.inl (hmem.mpr hx))
  · exact hat.slot_of_not_mem x (by simpa [hmem] using hx)

@[simp] theorem size_collapse (t : Tree) : t.collapse.size = t.size :=
  collapseWithin_induction (P := fun t' => t'.size = t.size)
    (fun t' id h => (size_collapseNode t' id).trans h) _ _ rfl

@[simp] theorem last_collapse (t : Tree) : t.collapse.last = t.last :=
  collapseWithin_induction (P := fun t' => t'.last = t.last) (fun _ _ h => h) _ _ rfl

/-- Where no node is marked, there is nothing to do. -/
theorem collapseWithin_of_not_marked (hs : t.Spans ids F)
    (hF : ∀ x ∈ F.flatten, (t.get x).collapsing = false) : Tree.collapseWithin n ids t = t := by
  induction hs generalizing n with
  | nil => cases n <;> rfl
  | @cons id ids under rest _ _ ihu ihr =>
    simp only [Forest.flatten, List.cons_append, List.mem_cons, List.mem_append] at hF
    cases n with
    | zero => rfl
    | succ n =>
      rw [Tree.collapseWithin, hF id (Or.inl rfl), if_neg Bool.false_ne_true,
        ihu fun x hx => hF x (Or.inr (Or.inl hx)), ihr fun x hx => hF x (Or.inr (Or.inr hx))]

theorem parent?_collapse (h : t.Linked) (hr : (t.get root).collapsing = false) (x : Nat) :
    t.collapse.parent? x = t.parent? x := by
  rw [parent?, slot_collapse h hr]
  split_ifs <;> rfl

theorem get_collapse (h : t.Linked) (hr : (t.get root).collapsing = false)
    (hx : t.Uncovered x) :
    t.collapse.get x = if (t.get x).collapsing then
      { t.get x with value := t.collapsedValue x, collapsing := false, appending := false }
    else t.get x := by
  rw [get, slot_collapse h hr]
  by_cases hm : (t.get x).collapsing = true
  · rw [if_pos ⟨hm, hx⟩, if_pos hm]
    rfl
  · rw [if_neg (fun hc => hm hc.1), if_neg hm]
    rfl

theorem children_collapse (h : t.Linked) (hr : (t.get root).collapsing = false)
    (hx : t.Uncovered x) :
    t.collapse.children x = if (t.get x).collapsing then [] else t.children x := by
  rw [children, slot_collapse h hr]
  by_cases hm : (t.get x).collapsing = true
  · rw [if_pos ⟨hm, hx⟩, if_pos hm]
    rfl
  · rw [if_neg (fun hc => hm hc.1), if_neg hm]
    rfl

/-- The root still reaches the uncovered nodes, and no other ones. -/
theorem reaches_collapse_iff (h : t.Linked) (hr : (t.get root).collapsing = false) :
    t.collapse.Reaches root x ↔ x < t.size ∧ t.Uncovered x := by
  constructor
  · intro hx
    induction hx with
    | refl => exact ⟨h.root_lt, uncovered_root t⟩
    | @tail p x _ hxp ih =>
      rw [children_collapse h hr ih.2] at hxp
      split_ifs at hxp with hm
      · cases hxp
      · have hp := h.mem_children_iff.mp hxp
        rw [Bool.not_eq_true] at hm
        exact ⟨Linked.lt_size_of_parent hp, (uncovered_iff_parent h hp).mpr ⟨ih.2, Or.inr hm⟩⟩
  · rintro ⟨hlt, hx⟩
    induction x, hlt using h.climb with
    | base => exact Relation.ReflTransGen.refl
    | step x p hp ih =>
      obtain ⟨hup, hpm⟩ := (uncovered_iff_parent h hp).mp hx
      have hpm : (t.get p).collapsing = false := by
        rcases hpm with rfl | hpm
        · exact hr
        · exact hpm
      refine (ih hup).tail ?_
      rw [children_collapse h hr hup, hpm, if_neg Bool.false_ne_true]
      exact h.mem_children_iff.mpr hp

/-- The collapsed tree is the tree pruned below its marked nodes. -/
theorem Spans.collapse (h : t.Linked) (hr : (t.get root).collapsing = false)
    (hs : t.Spans ids F) (hp : ∀ id ∈ ids, t.parent? id = some p)
    (hun : t.Uncovered p ∧ (p = root ∨ (t.get p).collapsing = false)) :
    t.collapse.Spans ids (F.prune t.marked) := by
  induction hs generalizing p with
  | nil => exact .nil
  | @cons id ids under rest hu hrest ihu ihr =>
    have hid : t.Uncovered id := (uncovered_iff_parent h (hp id List.mem_cons_self)).mpr hun
    refine .cons ?_ (ihr (fun c hc => hp c (List.mem_cons_of_mem _ hc)) hun)
    rw [children_collapse h hr hid]
    by_cases hm : (t.get id).collapsing = true
    · rw [if_pos hm, if_pos (show t.marked id = true from hm)]
      exact .nil
    · rw [if_neg hm, if_neg (show ¬ t.marked id = true from hm)]
      exact ihu (fun c hc => h.mem_children_iff.mp hc) ⟨hid, Or.inr (Bool.not_eq_true _ ▸ hm)⟩

theorem spans_collapse (h : t.Linked) (hr : (t.get root).collapsing = false) :
    t.collapse.Spans (t.collapse.children root) ((t.numbersBelow root).prune t.marked) := by
  rw [children_collapse h hr (uncovered_root t), hr, if_neg Bool.false_ne_true]
  exact (spans_numbersBelow h.hung root).collapse h hr (fun c hc => h.mem_children_iff.mp hc)
    ⟨uncovered_root t, Or.inl rfl⟩

/-- Pre-order afterwards is pre-order before without the covered nodes. -/
theorem descendants_collapse (h : t.Linked) (hr : (t.get root).collapsing = false) :
    t.collapse.descendants root = ((t.numbersBelow root).prune t.marked).flatten ∧
      t.collapse.descendants root = (t.descendants root).filter (t.Uncovered ·) := by
  have hs := spans_numbersBelow h.hung root
  have hlen : ((t.numbersBelow root).prune t.marked).flatten.length ≤ t.collapse.size := by
    rw [size_collapse]
    exact (Forest.flatten_prune_sublist _ _).length_le.trans (hs.length_flatten_le h.hung)
  have hd := (spans_collapse h hr).descendants_eq hlen
  refine ⟨hd, ?_⟩
  rw [hd, descendants_eq_flatten h.hung]
  exact hs.flatten_prune_eq h (fun c hc => h.mem_children_iff.mp hc)
    ⟨uncovered_root t, Or.inl rfl⟩

/-- **Collapsing**: what remains below the root are the uncovered nodes, in their order and below
the same nodes. A marked one among them is a leaf with the joined values of the nodes that were
below it and is no longer marked, the others are as before, and to collapse again changes
nothing. -/
theorem collapse_exact (h : t.Linked) (hr : (t.get root).collapsing = false) :
    (∀ x, t.collapse.Reaches root x ↔ x < t.size ∧ t.Uncovered x) ∧
    t.collapse.descendants root = (t.descendants root).filter (t.Uncovered ·) ∧
    (∀ x, t.collapse.Reaches root x →
      t.collapse.parent? x = t.parent? x ∧
      (t.collapse.get x).collapsing = false ∧
      if (t.get x).collapsing then
        t.collapse.children x = [] ∧ t.collapse.get x =
          { t.get x with value := t.collapsedValue x, collapsing := false, appending := false }
      else t.collapse.children x = t.children x ∧ t.collapse.get x = t.get x) ∧
    t.collapse.collapse = t.collapse := by
  have hmark : ∀ x, t.Uncovered x → (t.collapse.get x).collapsing = false := by
    intro x hx
    rw [get_collapse h hr hx]
    split_ifs with hm
    · rfl
    · rwa [Bool.not_eq_true] at hm
  refine ⟨fun x => reaches_collapse_iff h hr, (descendants_collapse h hr).2, fun x hx => ?_, ?_⟩
  · obtain ⟨-, hx⟩ := (reaches_collapse_iff h hr).mp hx
    refine ⟨parent?_collapse h hr x, hmark x hx, ?_⟩
    rw [get_collapse h hr hx, children_collapse h hr hx]
    split_ifs
    · exact ⟨rfl, rfl⟩
    · exact ⟨rfl, rfl⟩
  · refine collapseWithin_of_not_marked (spans_collapse h hr) fun x hx => hmark x ?_
    rw [← (descendants_collapse h hr).1, (descendants_collapse h hr).2, List.mem_filter,
      decide_eq_true_eq] at hx
    exact hx.2

/-- Of two marked nodes one below the other, the upper one takes the text of both, and it takes the
text that was attached in the middle of the tree last of all. -/
theorem collapse_exact_nested :
    let t := ((((empty.insert { line := 1, keyword := "top".toList }).insert
      { line := 2, index := 1, keyword := "a".toList, collapsing := true }).insert
      { line := 3, index := 2, value := "x".toList, collapsing := true }).append 2
      { line := 4, index := 9, value := "y".toList }).insert
      { line := 5, index := 1, value := "z".toList }
    t.Linked ∧ (t.get root).collapsing = false ∧
      t.collapse.descendants root = (t.descendants root).filter (t.Uncovered ·) ∧
      (t.collapse.get 2).value = "xy".toList ∧ t.collapse.children 2 = [] ∧
      t.collapse.collapse = t.collapse := by
  intro t
  have h : t.Linked :=
    linked_insert (linked_append (linked_insert (linked_insert (linked_insert linked_empty
      (by decide) _) (by decide) _) (by decide) _) (by decide) _) (by decide) _
  have hr : (t.get root).collapsing = false := by decide
  obtain ⟨hreach, hdesc, hnodes, hagain⟩ := collapse_exact h hr
  obtain ⟨-, -, hleaf⟩ := hnodes 2 ((hreach 2).mpr (by decide))
  rw [if_pos (by decide)] at hleaf
  refine ⟨h, hr, hdesc, ?_, hleaf.1, hagain⟩
  rw [hleaf.2]
  decide

end Tree

end Marginalia
