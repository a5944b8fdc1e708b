import Marginalia.Collapse
import Marginalia.Proofs.Text.Lines
import Mathlib.Data.List.Basic
import Mathlib.Data.List.TakeWhile
import Mathlib.Order.Basic

/-!
# The characters one sees

The *visible* characters of a text are those that are not blank. Trimming, taking lines apart and
joining them again, and taking a margin away change blank characters only, so `dedent` keeps what
one sees (`visible_dedent`).
-/

namespace Marginalia.Text

variable {t l : Text} {ls : List Text} {n : Nat}

/-- The characters that are not blank. -/
def visible (t : Text) : Text := t.filter (!Marginalia.isBlank ·)

@[simp] theorem visible_nil : visible [] = [] := rfl

@[simp] theorem visible_append (s t : Text) : visible (s ++ t) = visible s ++ visible t :=
  List.filter_append s t

theorem visible_eq_nil_iff : visible t = [] ↔ ∀ c ∈ t, Marginalia.isBlank c = true := by
  simp [visible, List.filter_eq_nil_iff]

theorem visible_of_isBlank (h : isBlank t = true) : visible t = [] :=
  visible_eq_nil_iff.mpr (List.all_eq_true.mp h)

theorem visible_flatMap {α : Type} (f : α → Text) (as : List α) :
    visible (as.flatMap f) = as.flatMap fun a => visible (f a) := by
  simp [visible, List.filter_flatMap]

/-! ### Blank ends -/

@[simp] theorem visible_trimStart (t : Text) : visible (trimStart t) = visible t := by
  have hblank : visible (t.takeWhile Marginalia.isBlank) = [] :=
    visible_eq_nil_iff.mpr fun _ hc => List.mem_takeWhile_imp hc
  calc visible (trimStart t)
      = visible (t.takeWhile Marginalia.isBlank ++ t.dropWhile Marginalia.isBlank) := by
        rw [visible_append, hblank, List.nil_append, trimStart]
    _ = visible t := by rw [List.takeWhile_append_dropWhile]

theorem visible_reverse (t : Text) : visible t.reverse = (visible t).reverse :=
  List.filter_reverse

@[simp] theorem visible_trimEnd (t : Text) : visible (trimEnd t) = visible t := by
  have h := visible_trimStart t.reverse
  rw [visible_reverse] at h
  rw [trimEnd, visible_reverse, ← trimStart, h, List.reverse_reverse]

/-! ### Lines -/

theorem visible_join (ls : List Text) : visible (join ['\n'] ls) = ls.flatMap visible := by
  induction ls with
  | nil => rfl
  | cons l ls ih =>
    cases ls with
    | nil => simp [join_singleton]
    | cons l' ls =>
      have hsep : visible ['\n'] = [] := by decide
      rw [join_cons_cons, visible_append, visible_append, hsep, List.append_nil,
        List.flatMap_cons, ← ih]

theorem visible_dropReturn (t : Text) : visible (dropReturn t) = visible t := by
  unfold dropReturn
  split_ifs with h
  · have hreturn : visible ['\r'] = [] := by decide
    calc visible t.dropLast = visible (t.dropLast ++ ['\r']) := by
          rw [visible_append, hreturn, List.append_nil]
      _ = visible t := by rw [List.dropLast_append_getLast? _ h]
  · rfl

/-- The lines of a text show all that the text shows. -/
theorem flatMap_visible_lines (t : Text) : (lines t).flatMap visible = visible t := by
  have hpieces := visible_join (t.splitOn '\n')
  rw [join, List.intercalate_splitOn] at hpieces
  obtain ⟨init, last, hsplit⟩ := exists_splitOn_eq_concat '\n' t
  have hlast : (if last.isEmpty then [] else [last]).flatMap visible = visible last := by
    cases last <;> simp
  rw [hpieces, lines_of_splitOn hsplit, hsplit]
  simp only [List.flatMap_append, List.flatMap_map, visible_dropReturn, hlast,
    List.flatMap_singleton]

/-! ### Margins -/

/-- What is cut off a line are spaces. -/
theorem eq_space_of_mem_take (hn : n ≤ spaces l) : ∀ c ∈ l.take n, c = ' ' := by
  intro c hc
  have hpre : l.take n <+: l.takeWhile (· == ' ') :=
    List.prefix_of_prefix_length_le (List.take_prefix n l) (List.takeWhile_prefix _)
      (Nat.le_trans (List.length_take_le n l) hn)
  simpa using List.mem_takeWhile_imp (hpre.subset hc)

theorem visible_cutMargin (h : isBlank l = false → n ≤ spaces l) :
    visible (cutMargin n l) = visible l := by
  unfold cutMargin
  split_ifs with hb
  · rw [visible_of_isBlank hb, visible_nil]
  · rw [Bool.not_eq_true] at hb
    have hcut : visible (l.take n) = [] := by
      refine visible_eq_nil_iff.mpr fun c hc => ?_
      rw [eq_space_of_mem_take (h hb) c hc]
      decide
    calc visible (l.drop n) = visible (l.take n ++ l.drop n) := by
          rw [visible_append, hcut, List.nil_append]
      _ = visible l := by rw [List.take_append_drop]

/-- **Dedenting** keeps all that a text shows. -/
theorem visible_dedent (t : Text) : visible (dedent t) = visible t := by
  rw [dedent, visible_trimEnd, visible_join, List.flatMap_map, ← flatMap_visible_lines t]
  refine List.flatMap_congr fun l hl => ?_
  exact visible_cutMargin (margin_le hl)

end Marginalia.Text
