import Marginalia.Proofs.Text.Trim

/-!
# Line endings

The *rows* of a text are the pieces between line feeds, without an empty one at the end. They differ
from its lines only by carriage returns (`map_trimEnd_lines`).

A text is *repadded* when its lines get other blanks at their ends, be it that blanks are put there,
taken away or changed. Carriage returns before all line feeds are such blanks
(`repadded_withReturns`). The rows of a repadded text are the same but for the blanks at their ends
(`Repadded.map_trimEnd_rows`).
-/

namespace Marginalia.Text

variable {l t t' : Text}

/-! ### Rows -/

/-- The pieces between line feeds, without an empty one at the end. -/
def rows (t : Text) : List Text :=
  if (t.splitOn '\n').getLast? = some [] then (t.splitOn '\n').dropLast else t.splitOn '\n'

theorem rows_of_not_mem (hl : '\n' ∉ l) (hne : l ≠ []) : rows l = [l] := by
  rw [rows, List.splitOn_eq_singleton hl, List.getLast?_singleton, if_neg (by simpa using hne)]

theorem rows_append_feed (hl : '\n' ∉ l) (t : Text) : rows (l ++ '\n' :: t) = l :: rows t := by
  have hne := List.splitOn_ne_nil '\n' t
  rw [rows, List.splitOn_append_cons_self_of_not_mem hl, List.getLast?_cons_of_ne_nil hne,
    List.dropLast_cons_of_ne_nil hne, rows]
  split_ifs <;> rfl

theorem trimEnd_dropReturn (t : Text) : trimEnd (dropReturn t) = trimEnd t := by
  unfold dropReturn
  split_ifs with h
  · calc trimEnd t.dropLast = trimEnd (t.dropLast ++ ['\r']) := (trimEnd_append (by decide) _).symm
      _ = trimEnd t := by rw [List.dropLast_append_getLast? _ h]
  · rfl

/-- Lines and rows are the same but for blanks at their ends. -/
theorem map_trimEnd_lines (t : Text) : (lines t).map trimEnd = (rows t).map trimEnd := by
  obtain ⟨init, last, hsplit⟩ := exists_splitOn_eq_concat '\n' t
  have hinit : (init.map dropReturn).map trimEnd = init.map trimEnd := by
    rw [List.map_map]
    exact List.map_congr_left fun l _ => trimEnd_dropReturn l
  rw [lines_of_splitOn hsplit]
  simp only [rows, hsplit, List.getLast?_concat, List.dropLast_concat, Option.some.injEq,
    List.map_append, hinit]
  cases last <;> simp

/-! ### Blanks at the ends of lines -/

/-- Blanks that do not go over the line. -/
structure Trailing (p : Text) : Prop where
  blank : isBlank p = true
  feed : '\n' ∉ p

instance (p : Text) : Decidable (Trailing p) :=
  decidable_of_iff (isBlank p = true ∧ '\n' ∉ p) ⟨fun h => ⟨h.1, h.2⟩, fun h => ⟨h.blank, h.feed⟩⟩

theorem trailing_nil : Trailing [] := ⟨rfl, List.not_mem_nil⟩

/-- The second text is the first one with other blanks at the ends of its lines. -/
inductive Repadded : Text → Text → Prop where
  /-- There are no lines. -/
  | nil : Repadded [] []
  /-- A line that is not ended; on both sides there is something of it. -/
  | last {l p q : Text} (hl : '\n' ∉ l) (hp : Trailing p) (hq : Trailing q) (hne : l ++ p ≠ [])
      (hne' : l ++ q ≠ []) : Repadded (l ++ p) (l ++ q)
  /-- A line with its end, and more behind it. -/
  | line {l p q t t' : Text} (hl : '\n' ∉ l) (hp : Trailing p) (hq : Trailing q)
      (more : Repadded t t') : Repadded ((l ++ p) ++ '\n' :: t) ((l ++ q) ++ '\n' :: t')

/-- The text with a carriage return before each line feed. -/
def withReturns (t : Text) : Text := t.flatMap fun c => if c = '\n' then ['\r', '\n'] else [c]

theorem withReturns_of_not_mem (hl : '\n' ∉ l) : withReturns l = l := by
  induction l with
  | nil => rfl
  | cons c l ih =>
    rw [List.mem_cons, not_or] at hl
    rw [withReturns, List.flatMap_cons, if_neg (Ne.symm hl.1), ← withReturns, ih hl.2,
      List.singleton_append]

theorem repadded_refl (t : Text) : Repadded t t := by
  induction t using piece_induction '\n' with
  | last l hl =>
    by_cases hne : l = []
    · rw [hne]
      exact .nil
    · simpa using Repadded.last hl trailing_nil trailing_nil (by simpa using hne)
        (by simpa using hne)
  | cons l t hl ih => simpa using Repadded.line hl trailing_nil trailing_nil ih

/-- Carriage returns before the line feeds are blanks at the ends of lines. -/
theorem repadded_withReturns (t : Text) : Repadded t (withReturns t) := by
  induction t using piece_induction '\n' with
  | last l hl =>
    rw [withReturns_of_not_mem hl]
    exact repadded_refl l
  | cons l t hl ih =>
    have happend : withReturns (l ++ '\n' :: t) = (l ++ ['\r']) ++ '\n' :: withReturns t := by
      rw [withReturns, List.flatMap_append, ← withReturns, withReturns_of_not_mem hl,
        List.flatMap_cons, ← withReturns, if_pos rfl, List.append_assoc]
      rfl
    rw [happend]
    simpa using Repadded.line hl trailing_nil (show Trailing ['\r'] by decide) ih

/-- Other blanks at the ends of lines are all that is changed. -/
theorem Repadded.map_trimEnd_rows (h : Repadded t t') :
    (rows t').map trimEnd = (rows t).map trimEnd := by
  induction h with
  | nil => rfl
  | last hl hp hq hne hne' =>
    rw [rows_of_not_mem (by simp [hl, hp.feed]) hne, rows_of_not_mem (by simp [hl, hq.feed]) hne',
      List.map_singleton, List.map_singleton, trimEnd_append hp.blank, trimEnd_append hq.blank]
  | line hl hp hq _ ih =>
    rw [rows_append_feed (by simp [hl, hq.feed]), rows_append_feed (by simp [hl, hp.feed]),
      List.map_cons, List.map_cons, ih, trimEnd_append hp.blank, trimEnd_append hq.blank]

end Marginalia.Text
