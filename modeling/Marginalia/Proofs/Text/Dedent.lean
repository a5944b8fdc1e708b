import Marginalia.Proofs.Text.Margin

/-!
# Dedenting lines

What the margin of some lines is can be said without computing it (`IsMargin`, `isMargin_iff`). It
consists of spaces in every line that shows something (`eq_spaces_append_drop_margin`).

Dedenting a text of joined lines cuts the margin off each of them (`dedent_join_lines`). If the last
line is empty, it is not among the lines of the text; it has no part in the margin then, and it
would have been lost as white space at the end.
-/

namespace Marginalia.Text

variable {l : Text} {ls : List Text} {m : Nat}

/-! ### What the margin is -/

/-- The least number of spaces in front of the lines that show something; 0 if none does. -/
structure IsMargin (ls : List Text) (m : Nat) : Prop where
  le : ∀ l ∈ ls, isBlank l = false → m ≤ spaces l
  attained : (∃ l ∈ ls, isBlank l = false) → ∃ l ∈ ls, isBlank l = false ∧ spaces l = m
  zero : (∀ l ∈ ls, isBlank l = true) → m = 0

theorem margin_of_isBlank (h : ∀ l ∈ ls, isBlank l = true) : margin ls = 0 := by
  have hnone : ls.filter (!isBlank ·) = [] :=
    List.filter_eq_nil_iff.mpr fun l hl => by simp [h l hl]
  rw [margin, hnone]
  rfl

theorem isMargin_margin (ls : List Text) : IsMargin ls (margin ls) where
  le _ hl hb := margin_le hl hb
  attained := fun ⟨_, hl, hb⟩ => exists_spaces_eq_margin hl hb
  zero := margin_of_isBlank

theorem isMargin_iff : IsMargin ls m ↔ margin ls = m := by
  refine ⟨fun h => ?_, fun h => h ▸ isMargin_margin ls⟩
  by_cases hshown : ∃ l ∈ ls, isBlank l = false
  · exact margin_eq (h.attained hshown) h.le
  · have hblank : ∀ l ∈ ls, isBlank l = true := by simpa using hshown
    rw [h.zero hblank, margin_of_isBlank hblank]

/-- The margin of a line that shows something consists of spaces. -/
theorem eq_spaces_append_drop_margin (hl : l ∈ ls) (hb : isBlank l = false) :
    l = List.replicate (margin ls) ' ' ++ l.drop (margin ls) := by
  have hle : margin ls ≤ spaces l := margin_le hl hb
  have hlength : spaces l ≤ l.length := (List.takeWhile_prefix _).length_le
  have hmargin : l.take (margin ls) = List.replicate (margin ls) ' ' :=
    List.eq_replicate_iff.mpr
      ⟨List.length_take_of_le (hle.trans hlength), eq_space_of_mem_take hle⟩
  rw [← hmargin, List.take_append_drop]

/-! ### Joined lines -/

/-- An empty line at the end of a text is none of its lines. -/
theorem lines_join_concat_nil (hfeed : ∀ l ∈ ls, '\n' ∉ l)
    (hreturn : ∀ l ∈ ls, l.getLast? ≠ some '\r') : lines (join ['\n'] (ls ++ [[]])) = ls := by
  have hfeed' : ∀ l ∈ ls ++ [[]], '\n' ∉ l := List.forall_mem_append.mpr ⟨hfeed, by simp⟩
  rw [lines_join_concat hfeed', map_dropReturn_eq_self hreturn]
  exact List.append_nil ls

theorem margin_concat_nil (ls : List Text) : margin (ls ++ [[]]) = margin ls := by
  rw [margin, List.filter_append, margin]
  simp [isBlank]

/-- **Dedenting** joined lines cuts the margin off each of them. -/
theorem dedent_join_lines (hfeed : ∀ l ∈ ls, '\n' ∉ l)
    (hreturn : ∀ l ∈ ls, l.getLast? ≠ some '\r') :
    dedent (join ['\n'] ls) = trimEnd (join ['\n'] (ls.map (cutMargin (margin ls)))) := by
  by_cases hlast : ls.getLast? = some []
  · obtain ⟨init, rfl⟩ : ∃ init, ls = init ++ [[]] :=
      ⟨ls.dropLast, (List.dropLast_append_getLast? [] hlast).symm⟩
    have hlines : lines (join ['\n'] (init ++ [[]])) = init :=
      lines_join_concat_nil (fun l hl => hfeed l (List.mem_append_left _ hl))
        fun l hl => hreturn l (List.mem_append_left _ hl)
    rw [dedent, hlines, List.map_append, List.map_singleton, margin_concat_nil,
      cutMargin_of_isBlank rfl, trimEnd_join_concat_nil]
  · rw [dedent, lines_join hfeed hreturn hlast]

end Marginalia.Text
