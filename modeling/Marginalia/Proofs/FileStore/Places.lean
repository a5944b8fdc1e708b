import Marginalia.FileStore
import Marginalia.Proofs.Path.Components

/-!
# Items and places

What is at a location after an item was put somewhere or items were taken away is said by
`get?_put`, `get?_removeFrom` and `get?_removeBelow`.

A path leads from directory to directory, from the root or from the working directory on. The store
decides whether each of them is there, but not where the path leads: that is known from its
components (`Path.place`), and a path that leads somewhere in a store leads to that place
(`place_of_spot`). Going on by names from the place of one path leads below it (`place_names`).
-/

namespace Marginalia

section Except

variable {ε α β : Type} {x : Except ε α} {b : β}

theorem exists_ok_of_bind {f : α → Except ε β} (h : x >>= f = .ok b) :
    ∃ a, x = .ok a ∧ f a = .ok b := by
  cases x with
  | error e => cases h
  | ok a => exact ⟨a, rfl, h⟩

theorem exists_ok_of_map {f : α → β} (h : x.map f = .ok b) : ∃ a, x = .ok a ∧ f a = b := by
  cases x with
  | error e => cases h
  | ok a => exact ⟨a, rfl, Except.ok.inj h⟩

end Except

namespace Path

variable {here l : Location} {p q : Path} {ns : List Text}

/-! ### Places -/

/-- The location that a component leads to from another one. -/
def descend (l : Location) : Component → Location
  | .root => []
  | .current => l
  | .parent => l.dropLast
  | .name n => l ++ [n]

/-- The location that the path leads to, if the working directory is `here`. -/
def place (here : Location) (p : Path) : Location := (components p).foldl descend here

theorem foldl_descend_names (l : Location) (ns : List Text) :
    (ns.map .name).foldl descend l = l ++ ns := by
  induction ns generalizing l with
  | nil => exact (List.append_nil l).symm
  | cons n ns ih =>
    rw [List.map_cons, List.foldl_cons, ih, descend, List.append_assoc, List.singleton_append]

/-- A path that goes on by names leads below the place of the other one. -/
theorem place_names (h : components p = components q ++ ns.map .name) (here : Location) :
    place here p = place here q ++ ns := by
  rw [place, h, List.foldl_append, foldl_descend_names, ← place]

/-- Names behind one directory that lead to the same place are the same. -/
theorem names_eq_of_place {ms : List Text} (o : Path)
    (hp : components p = components o ++ ns.map .name)
    (hq : components q = components o ++ ms.map .name)
    (h : place here p = place here q) : ns = ms := by
  rw [place_names hp, place_names hq] at h
  exact List.append_cancel_left h

/-- What is in front of a path says where its lookup starts, and a dot there does not matter. -/
theorem place_eq (here : Location) (p : Path) :
    place here p = (between p).foldl descend (start here p) := by
  rw [place, components_eq, List.foldl_append, front, start]
  split_ifs <;> rfl

theorem start_eq_of_isAbsolute_eq (h : isAbsolute p = isAbsolute q) (here : Location) :
    start here p = start here q := by rw [start, start, h]

theorem component?_ne_root (piece : Text) : component? piece ≠ some .root := by
  unfold component?
  split_ifs <;> simp

end Path

namespace FileStore

variable {s : FileStore} {l l' : Location} {i : Item} {p : Path}

/-! ### Items -/

theorem lookup_filter {q : Location → Bool} (items : List (Location × Item)) (l : Location) :
    (items.filter fun e => q e.1).lookup l = if q l then items.lookup l else none := by
  induction items with
  | nil => simp
  | cons e items ih =>
    obtain ⟨k, i⟩ := e
    rw [List.filter_cons]
    by_cases hk : l = k
    · subst hk
      by_cases hq : q l = true
      · rw [if_pos hq, if_pos hq, List.lookup_cons_self, List.lookup_cons_self]
      · rw [if_neg hq, ih, if_neg hq, if_neg hq]
    · have hne : (l == k) = false := by simpa using hk
      by_cases hq : q k = true
      · rw [if_pos hq, List.lookup_cons, hne, List.lookup_cons, hne]
        exact ih
      · rw [if_neg hq, ih, List.lookup_cons, hne]

theorem get?_put (hl : l ≠ []) (s : FileStore) (i : Item) (l' : Location) :
    (s.put l i).get? l' = if l' = l then some i else s.get? l' := by
  cases l' with
  | nil => rw [if_neg hl.symm]; rfl
  | cons n ns =>
    rw [get?, put, List.lookup_cons, lookup_filter (q := fun k => k != l)]
    · by_cases heq : n :: ns = l
      · rw [if_pos heq, beq_iff_eq.mpr heq]
      · rw [if_neg heq, beq_eq_false_iff_ne.mpr heq, if_pos (bne_iff_ne.mpr heq), get?]
        exact List.cons_ne_nil _ _
    · exact List.cons_ne_nil _ _

theorem get?_removeFrom (hl : l ≠ []) (s : FileStore) (l' : Location) :
    (s.removeFrom l).get? l' = if l <+: l' then none else s.get? l' := by
  cases l' with
  | nil => rw [if_neg fun h => hl (List.prefix_nil.mp h)]; rfl
  | cons n ns =>
    rw [get?, removeFrom, lookup_filter (q := fun k => !l.isPrefixOf k)]
    · by_cases hp : l <+: n :: ns
      · rw [if_pos hp, List.isPrefixOf_iff_prefix.mpr hp]; rfl
      · have hp' : l.isPrefixOf (n :: ns) = false := by
          rwa [← Bool.not_eq_true, List.isPrefixOf_iff_prefix]
        rw [if_neg hp, hp', get?]
        · rfl
        · exact List.cons_ne_nil _ _
    · exact List.cons_ne_nil _ _

theorem get?_removeBelow (s : FileStore) (l l' : Location) :
    (s.removeBelow l).get? l' = if l <+: l' ∧ l' ≠ l then none else s.get? l' := by
  cases l' with
  | nil => rw [if_neg fun h => h.2 (List.prefix_nil.mp h.1).symm]; rfl
  | cons n ns =>
    rw [get?, removeBelow, lookup_filter (q := fun k => k == l || !l.isPrefixOf k)]
    · by_cases hp : l <+: n :: ns ∧ n :: ns ≠ l
      · rw [if_pos hp, List.isPrefixOf_iff_prefix.mpr hp.1, beq_eq_false_iff_ne.mpr hp.2]; rfl
      · rw [if_neg hp, if_pos, get?]
        · exact List.cons_ne_nil _ _
        · rw [Bool.or_eq_true, beq_iff_eq, Bool.not_eq_true', ← Bool.not_eq_true,
            List.isPrefixOf_iff_prefix]
          tauto
    · exact List.cons_ne_nil _ _

/-! ### Looking up paths -/

/-- Entering a directory goes where the component leads. -/
theorem descend_of_enter {piece : Text} (h : s.enter l piece = .ok l') :
    (Path.component? piece).elim l (Path.descend l) = l' := by
  unfold enter at h
  cases hc : Path.component? piece with
  | none =>
    rw [hc] at h
    exact Except.ok.inj h
  | some c =>
    rw [hc] at h
    cases c with
    | root => exact absurd hc (Path.component?_ne_root piece)
    | current | parent => exact Except.ok.inj h
    | name n =>
      dsimp only at h
      split at h
      · cases h
      · cases h
      · cases h
      · exact Except.ok.inj h

theorem foldl_descend_of_enter {pieces : List Text} (h : pieces.foldlM s.enter l = .ok l') :
    (pieces.filterMap Path.component?).foldl Path.descend l = l' := by
  induction pieces generalizing l with
  | nil => exact Except.ok.inj h
  | cons piece pieces ih =>
    rw [List.foldlM_cons] at h
    obtain ⟨l₁, he, h⟩ := exists_ok_of_bind h
    have hfirst := descend_of_enter he
    rw [List.filterMap_cons]
    cases hc : Path.component? piece with
    | none =>
      rw [hc] at hfirst
      obtain rfl : l = l₁ := hfirst
      exact ih h
    | some c =>
      rw [hc] at hfirst
      rw [List.foldl_cons, show Path.descend l c = l₁ from hfirst]
      exact ih h

/-- The way leads through directories that are there, and so does its end. -/
theorem enterAll_eq_ok_iff {pieces : List Text} :
    s.enterAll l pieces = .ok l' ↔
      pieces.foldlM s.enter l = .ok l' ∧ s.get? l' = some .directory := by
  unfold enterAll
  rcases pieces.foldlM s.enter l with e | l₁
  · simp
  · dsimp only
    split_ifs with hdir
    · rw [Except.ok.injEq]
      exact ⟨fun heq => ⟨heq, heq ▸ hdir⟩, And.left⟩
    · rw [Except.ok.injEq]
      exact ⟨fun h => (nomatch h), fun h => absurd (h.1 ▸ h.2) hdir⟩

/-- The location that a path was found to lead to. -/
def Spot.location : Spot → Location
  | .directory l => l
  | .name l => l

/-- **Places**: where a path leads in a store is known from the path alone. -/
theorem place_of_spot {x : Spot} (h : s.spot p = .ok x) :
    p.place s.here = x.location ∧ ∀ l, x = .name l → l ≠ [] := by
  obtain ⟨init, last, hpieces⟩ := Text.exists_splitOn_eq_concat '/' p
  rw [Path.place_eq, Path.between]
  unfold spot at h
  dsimp only at h
  split_ifs at h
  rw [hpieces, List.getLast?_concat, Option.getD_some, List.dropLast_concat] at h
  rw [hpieces]
  split at h
  · rename_i n hlast
    obtain ⟨l, hinit, rfl⟩ := exists_ok_of_map h
    have hfold := foldl_descend_of_enter (enterAll_eq_ok_iff.mp hinit).1
    refine ⟨?_, fun l' hl' => ?_⟩
    · rw [List.filterMap_append, List.foldl_append, hfold, List.filterMap_cons_some hlast,
        List.filterMap_nil]
      rfl
    · obtain rfl := Spot.name.inj hl'
      exact List.append_ne_nil_of_right_ne_nil _ (List.cons_ne_nil _ _)
  · obtain ⟨l, hall, rfl⟩ := exists_ok_of_map h
    refine ⟨foldl_descend_of_enter (enterAll_eq_ok_iff.mp hall).1, fun l' hl' => ?_⟩
    cases hl'

end FileStore

end Marginalia
