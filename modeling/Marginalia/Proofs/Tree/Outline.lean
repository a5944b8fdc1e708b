import Mathlib
import Marginalia.Proofs.Tree.Growth

/-!
# Outlines

An outline lists the nodes of a forest in pre-order, each with an index that says how deep it is.
Whatever indices stand for the depths, as long as deeper nodes have larger ones, inserting the
listed nodes in order builds the forest again (`forest_insertAll`).

The invariant is that of a position `p` *open* for the index `i` (`OpenAt`): `p` is on the edge, and
what is on the edge below `p` starts with a node of index `i`. Inserting a forest at an open
position hangs it below `p`, behind the children that are there, and leaves `p` open
(`insertAll_graft`).
-/

namespace Marginalia

namespace Forest

variable {F : Forest Node}

/-- The forest as a tree keeps it: every node with the index for its depth and the line of the node
above it. -/
def placed (f : Nat → Int) (depth above : Nat) : Forest Node → Forest Node
  | nil => nil
  | cons a under rest =>
    cons { a with index := f depth, parent := above } (under.placed f (depth + 1) a.line)
      (rest.placed f depth above)

theorem length_flatten_placed (f : Nat → Int) (F : Forest Node) (depth above : Nat) :
    (F.placed f depth above).flatten.length = F.flatten.length := by
  induction F generalizing depth above with
  | nil => rfl
  | cons a under rest ih₁ ih₂ =>
    simp only [placed, flatten, List.length_cons, List.length_append, ih₁, ih₂]

end Forest

namespace Tree

variable {t t' t'' : Tree} {id k p : Nat} {i : Int} {ids : List Nat} {F : Forest Node}

/-- Inserts nodes in order, each with the index for its depth. -/
def insertAll (f : Nat → Int) (t : Tree) (outline : List (Nat × Node)) : Tree :=
  outline.foldl (fun t entry => t.insert { entry.2 with index := f entry.1 }) t

theorem insertAll_cons (f : Nat → Int) (t : Tree) (d : Nat) (a : Node)
    (outline : List (Nat × Node)) :
    t.insertAll f ((d, a) :: outline) = (t.insert { a with index := f d }).insertAll f outline := by
  rw [insertAll, List.foldl_cons, insertAll]

theorem insertAll_append (f : Nat → Int) (t : Tree) (l l' : List (Nat × Node)) :
    t.insertAll f (l ++ l') = (t.insertAll f l).insertAll f l' := List.foldl_append

/-! ### Reading a forest off the tree -/

/-- The trees with the roots `ids` are those of the forest. -/
def Shows (t : Tree) : List Nat → Forest Node → Prop
  | [], .nil => True
  | id :: ids, .cons a under rest =>
    t.get id = a ∧ t.Shows (t.children id) under ∧ t.Shows ids rest
  | _, _ => False

theorem forestWithin_of_shows (h : t.Shows ids F) :
    ∀ n, F.flatten.length ≤ n → (t.forestWithin n ids).map t.get = F := by
  induction F generalizing ids with
  | nil =>
    intro n _
    cases ids with
    | nil => cases n <;> rfl
    | cons id ids => cases h
  | cons a under rest ih₁ ih₂ =>
    intro n hn
    cases ids with
    | nil => cases h
    | cons id ids =>
      obtain ⟨ha, hunder, hrest⟩ := h
      rw [Forest.flatten, List.cons_append, List.length_cons, List.length_append] at hn
      obtain ⟨m, rfl⟩ : ∃ m, n = m + 1 := ⟨n - 1, by omega⟩
      rw [forestWithin, Forest.map, ha, ih₁ hunder m (by omega), ih₂ hrest m (by omega)]

/-- Trees that agree from the number `k` on show the same forests there. -/
theorem Shows.congr (h : t.Shows ids F) (hl : t.Linked)
    (hids : ∀ id ∈ ids, k ≤ id ∧ id < t.size)
    (hsame : ∀ id, k ≤ id → id < t.size → t'.get id = t.get id ∧ t'.children id = t.children id) :
    t'.Shows ids F := by
  induction F generalizing ids with
  | nil =>
    cases ids with
    | nil => trivial
    | cons id ids => cases h
  | cons a under rest ih₁ ih₂ =>
    cases ids with
    | nil => cases h
    | cons id ids =>
      obtain ⟨ha, hunder, hrest⟩ := h
      obtain ⟨hk, hid⟩ := hids id List.mem_cons_self
      obtain ⟨hget, hch⟩ := hsame id hk hid
      refine ⟨hget.trans ha, ?_, ih₂ hrest fun c hc => hids c (List.mem_cons_of_mem _ hc)⟩
      rw [hch]
      refine ih₁ hunder fun c hc => ?_
      have hp := hl.mem_children_iff.mp hc
      exact ⟨hk.trans (hl.lt_of_parent hp).le, Linked.lt_size_of_parent hp⟩

/-! ### Open positions -/

/-- A node with index `i` goes below `p`: `p` is a shallower node of the edge, and it is the last
one or directly above one with this very index. -/
structure OpenAt (t : Tree) (i : Int) (p : Nat) : Prop where
  mem_edge : p ∈ t.edge
  shallow : p = root ∨ (t.get p).index < i
  bottom : p = t.last ∨ ∃ c ∈ t.edge, t.parent? c = some p ∧ (t.get c).index = i

theorem OpenAt.insert_eq (ho : t.OpenAt i p) (h : t.WellFormed) {node : Node}
    (hi : node.index = i) : t.insert node = t.append p node := by
  have hplace : t.placement i = p := by
    rcases ho.bottom with hp | ⟨c, hc, hcp, hci⟩
    · rw [placement, if_pos (hp ▸ ho.shallow), hp]
    · exact h.placement_of_index_eq hc hcp hci
  rw [insert, hi, hplace]

/-- If `k` is open for some index, the node above `k` is open for the index of `k`. -/
theorem OpenAt.up {j : Int} (ho : t.OpenAt j k) (h : t.WellFormed) (hp : t.parent? k = some p)
    (hi : (t.get k).index = i) : t.OpenAt i p where
  mem_edge := parent_mem_ancestors h.toLinked h.last_lt ho.mem_edge hp
  shallow := by
    rcases eq_or_ne p root with hr | hr
    · exact Or.inl hr
    · exact Or.inr (hi ▸ h.index_lt p k hp hr)
  bottom := Or.inr ⟨k, ho.mem_edge, hp, hi⟩

theorem openAt_append (hp : p < t.size) {node : Node} (hi : node.index < i) :
    (t.append p node).OpenAt i t.size where
  mem_edge := self_mem_ancestors _ _
  shallow := by
    rw [get_append hp, if_pos rfl]
    exact Or.inr hi
  bottom := Or.inl rfl

/-! ### Grafting a forest -/

/-- `t'` is `t` with a forest behind the children of `p`. -/
structure Grafted (t t' : Tree) (p : Nat) (F : Forest Node) : Prop extends t.Extends t' where
  wellFormed : t'.WellFormed
  size_eq : t'.size = t.size + F.flatten.length
  children_eq : ∀ id < t.size, id ≠ p → t'.children id = t.children id
  children_above : ∃ ids, t'.children p = t.children p ++ ids ∧
    (∀ id ∈ ids, t.size ≤ id) ∧ t'.Shows ids F

theorem Grafted.refl (h : t.WellFormed) (p : Nat) : t.Grafted t p .nil where
  toExtends := Extends.refl t
  wellFormed := h
  size_eq := rfl
  children_eq _ _ _ := rfl
  children_above :=
    ⟨[], (List.append_nil _).symm, fun _ hid => absurd hid List.not_mem_nil, trivial⟩

/-- A node below `p`, a forest below that node and another one below `p` make one forest. -/
theorem Grafted.cons {a : Node} {U R : Forest Node} (hp : p < t.size)
    (hu : (t.append p a).Grafted t' t.size U) (hr : t'.Grafted t'' p R) :
    t.Grafted t'' p (.cons { a with parent := (t.get p).line } U R) := by
  have hne : p ≠ t.size := Nat.ne_of_lt hp
  have hp₁ : p < (t.append p a).size := by
    rw [size_append]
    omega
  have hk₁ : t.size < (t.append p a).size := by
    rw [size_append]
    omega
  have hk₂ : t.size < t'.size := hk₁.trans_le hu.size_le
  have hext := ((extends_append hp a).trans hu.toExtends).trans hr.toExtends
  obtain ⟨us, hus, husge, hushow⟩ := hu.children_above
  obtain ⟨rs, hrs, hrsge, hrshow⟩ := hr.children_above
  refine ⟨hext, hr.wellFormed, ?_, ?_, t.size :: rs, ?_, ?_, ?_, ?_, hrshow⟩
  · rw [hr.size_eq, hu.size_eq, size_append, Forest.flatten, List.cons_append, List.length_cons,
      List.length_append]
    omega
  · intro id hid hidp
    have hidk : id ≠ t.size := Nat.ne_of_lt hid
    rw [hr.children_eq id (hid.trans hk₂) hidp, hu.children_eq id (hid.trans hk₁) hidk,
      children_append hp, if_neg hidp]
  · rw [hrs, hu.children_eq p hp₁ hne, children_append hp, if_pos rfl, List.append_assoc,
      List.singleton_append]
  · intro id hid
    rcases List.mem_cons.mp hid with rfl | hid
    · exact le_rfl
    · exact hk₂.le.trans (hrsge id hid)
  · rw [hr.get_eq _ hk₂, hu.get_eq _ hk₁, get_append hp, if_pos rfl]
  · -- the forest below the new node was complete before the nodes after it came
    have hnew : t''.children t.size = us := by
      rw [hr.children_eq _ hk₂ hne.symm, hus, children_append hp, if_neg hne.symm,
        show t.children t.size = [] by rw [children, slot_of_size_le le_rfl], List.nil_append]
    rw [hnew]
    refine hushow.congr hu.wellFormed.toLinked (k := t.size + 1) ?_ ?_
    · intro id hid
      refine ⟨size_append t p a ▸ husge id hid, ?_⟩
      have hmem : id ∈ t'.children t.size := by
        rw [hus]
        exact List.mem_append_right _ hid
      exact Linked.lt_size_of_parent (hu.wellFormed.mem_children_iff.mp hmem)
    · intro id hk hid
      exact ⟨hr.get_eq id hid, hr.children_eq id hid (by omega)⟩

/-- **Grafting**: at an open position the outline of a forest grows into that forest, and the
position stays open. -/
theorem insertAll_graft {f : Nat → Int} (hf : StrictMono f) (F : Forest Node) :
    ∀ {t : Tree} {p d : Nat}, t.WellFormed → t.OpenAt (f d) p →
      t.Grafted (t.insertAll f (F.preorderFrom d)) p (F.placed f d (t.get p).line) ∧
        (t.insertAll f (F.preorderFrom d)).OpenAt (f d) p := by
  induction F with
  | nil =>
    intro t p d h ho
    exact ⟨Grafted.refl h p, ho⟩
  | cons a under rest ih₁ ih₂ =>
    intro t p d h ho
    have hp : p < t.size := h.lt_size_of_mem_edge ho.mem_edge
    let b : Node := { a with index := f d }
    have h₁ : (t.append p b).WellFormed := wellFormed_append h hp ho.shallow
    have ho₁ : (t.append p b).OpenAt (f (d + 1)) t.size :=
      openAt_append hp (hf (Nat.lt_succ_self d))
    obtain ⟨hu, ho₂⟩ := ih₁ h₁ ho₁
    have hk : t.size < (t.append p b).size := by
      rw [size_append]
      exact Nat.lt_succ_self _
    have hopen := ho₂.up (i := f d) (p := p) hu.wellFormed
      (by rw [hu.parent_eq _ hk, parent?_append hp, if_pos rfl])
      (by rw [hu.get_eq _ hk, get_append hp, if_pos rfl])
    obtain ⟨hr, ho₃⟩ := ih₂ hu.wellFormed hopen
    have hline : ((t.append p b).get t.size).line = a.line := by rw [get_append hp, if_pos rfl]
    have habove := ((extends_append hp b).trans hu.toExtends).get_eq p hp
    rw [hline] at hu
    rw [habove] at hr
    rw [Forest.preorderFrom, List.cons_append, insertAll_cons, insertAll_append,
      ho.insert_eq h rfl]
    exact ⟨Grafted.cons hp hu hr, ho₃⟩

/-- **Outlines determine forests**: inserting the nodes of a forest in pre-order, with indices that
grow with the depth, gives a tree with just this forest below the root. -/
theorem forest_insertAll (f : Nat → Int) (hf : StrictMono f) (F : Forest Node) :
    (empty.insertAll f F.preorder).forest = F.placed f 1 0 ∧
      (empty.insertAll f F.preorder).size = F.flatten.length + 1 := by
  have hopen : empty.OpenAt (f 1) root :=
    ⟨self_mem_ancestors _ _, Or.inl rfl, Or.inl rfl⟩
  obtain ⟨hg, -⟩ := insertAll_graft hf F wellFormed_empty hopen
  obtain ⟨ids, hids, -, hshow⟩ := hg.children_above
  have hsize := hg.size_eq
  rw [Forest.length_flatten_placed, Nat.add_comm] at hsize
  refine ⟨?_, hsize⟩
  rw [forest, forestBelow, numbersBelow, show (empty.insertAll f F.preorder).children root = ids
    from hids]
  refine forestWithin_of_shows hshow _ ?_
  rw [Forest.length_flatten_placed]
  exact hsize.ge.trans' (Nat.le_succ _)

/-- The same with negative indices, gaps between the levels, and a step back over three levels. -/
theorem forest_insertAll_steps_back :
    let f : Nat → Int := fun d => 3 * d - 5
    let F : Forest Node :=
      .cons { line := 1, keyword := "a".toList }
        (.cons { line := 2, keyword := "b".toList }
          (.cons { line := 3, keyword := "c".toList }
            (.cons { line := 4, value := "deep".toList } .nil .nil) .nil)
          .nil)
        (.cons { line := 5, keyword := "e".toList } .nil .nil)
    (empty.insertAll f F.preorder).forest = F.placed f 1 0 ∧
      (empty.insertAll f F.preorder).size = F.flatten.length + 1 :=
  forest_insertAll (fun d => 3 * d - 5) (fun a b hab => by simp only; omega) _

end Tree

end Marginalia
