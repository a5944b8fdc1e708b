import Marginalia.Proofs.Text.Visible

/-!
# Moving lines to the right

Spaces in front of a line change its indentation and its margin, and nothing that is behind them.
If all lines of a text are moved by the same number of spaces, the margin moves with them, so
dedenting gives the same text (`dedent_join_indented`). Lines that show nothing have no part in the
margin and come out empty; if the last one is empty, the spaces make it a line, which is lost as
white space at the end.
-/

namespace Marginalia.Text

variable {k m : Nat} {t l : Text} {ls ps tail : List Text}

theorem isBlank_spaces (k : Nat) : isBlank (List.replicate k ' ') = true := by
  refine List.all_eq_true.mpr fun c hc => ?_
  rw [List.eq_of_mem_replicate hc]
  decide

theorem isBlank_indented (k : Nat) (t : Text) : isBlank (indented k t) = isBlank t := by
  have hpad := isBlank_spaces k
  rw [isBlank] at hpad
  rw [isBlank, indented, List.all_append, hpad, Bool.true_and, isBlank]

theorem dropReturn_indented (k : Nat) (t : Text) :
    dropReturn (indented k t) = indented k (dropReturn t) := by
  rcases List.eq_nil_or_concat' t with rfl | ⟨init, c, rfl⟩
  · have hlast : (indented k []).getLast? ≠ some '\r' := by
      intro hr
      have hmem := List.mem_of_getLast? hr
      rw [indented, List.append_nil] at hmem
      exact absurd (List.eq_of_mem_replicate hmem) (by decide)
    rw [dropReturn, if_neg hlast]
    rfl
  · rw [dropReturn, indented, ← List.append_assoc, List.getLast?_concat, dropReturn,
      List.getLast?_concat]
    split_ifs
    · rw [List.dropLast_concat, List.dropLast_concat, indented]
    · rw [List.append_assoc, indented]

theorem cutMargin_indented (k m : Nat) (t : Text) :
    cutMargin (k + m) (indented k t) = cutMargin m t := by
  rw [cutMargin, cutMargin, isBlank_indented, indented]
  split_ifs
  · rfl
  · rw [List.drop_append, List.drop_eq_nil_of_le (by simp), List.nil_append,
      List.length_replicate, Nat.add_sub_cancel_left]

/-! ### The margin -/

/-- Blank lines behind them apart, the margin moves with the lines. -/
theorem margin_map_indented (htail : ∀ l ∈ tail, isBlank l = true) (hl : l ∈ ls)
    (hb : isBlank l = false) (k : Nat) :
    margin (ls.map (indented k) ++ tail) = k + margin ls := by
  have hmoved : ∀ l' ∈ ls.map (indented k) ++ tail, isBlank l' = false →
      ∃ l ∈ ls, isBlank l = false ∧ l' = indented k l := by
    intro l' hl' hb'
    rcases List.mem_append.mp hl' with hl' | hl'
    · obtain ⟨l, hl, rfl⟩ := List.mem_map.mp hl'
      exact ⟨l, hl, by rwa [isBlank_indented] at hb', rfl⟩
    · rw [htail l' hl'] at hb'
      cases hb'
  refine margin_eq ?_ fun l' hl' hb' => ?_
  · obtain ⟨l, hl, hb, hs⟩ := exists_spaces_eq_margin hl hb
    refine ⟨indented k l, List.mem_append_left _ (List.mem_map_of_mem hl), ?_, ?_⟩
    · rw [isBlank_indented, hb]
    · rw [spaces_indented, hs]
  · obtain ⟨l, hl, hb, rfl⟩ := hmoved l' hl' hb'
    rw [spaces_indented]
    exact Nat.add_le_add_left (margin_le hl hb) k

theorem cutMargin_of_isBlank (h : isBlank l = true) (m : Nat) : cutMargin m l = [] := by
  rw [cutMargin, if_pos h]

/-- Cut at their margin, lines that were moved to the right are the same as before. -/
theorem map_cutMargin_indented (htail : ∀ l ∈ tail, isBlank l = true) (k : Nat) :
    (ls.map (indented k) ++ tail).map (cutMargin (margin (ls.map (indented k) ++ tail))) =
      ls.map (cutMargin (margin ls)) ++ tail.map fun _ => [] := by
  rw [List.map_append, List.map_map]
  congr 1
  · refine List.map_congr_left fun l hl => ?_
    rw [Function.comp_apply]
    by_cases hb : isBlank l = true
    · rw [cutMargin_of_isBlank hb, cutMargin_of_isBlank ((isBlank_indented k l).trans hb)]
    · rw [margin_map_indented htail hl (Bool.not_eq_true _ ▸ hb), cutMargin_indented]
  · exact List.map_congr_left fun l hl => cutMargin_of_isBlank (htail l hl) _

/-! ### Whole texts -/

theorem trimEnd_join_concat_nil (ls : List Text) :
    trimEnd (join ['\n'] (ls ++ [[]])) = trimEnd (join ['\n'] ls) := by
  rcases List.eq_nil_or_concat' ls with rfl | ⟨init, last, rfl⟩
  · rfl
  · have hfeed : join ['\n'] (init ++ [last] ++ [[]]) = join ['\n'] (init ++ [last]) ++ ['\n'] := by
      rw [join_concat, join_concat, List.flatMap_append, List.flatMap_singleton, List.append_nil,
        List.append_assoc]
    rw [hfeed, trimEnd_append (by decide)]

/-- Spaces in front of all pieces of a text are spaces in front of its lines; if the last piece is
empty, the spaces make a line of it. -/
theorem lines_join_map_indented (hps : ∀ p ∈ ps, '\n' ∉ p) (k : Nat) :
    ∃ tail, (tail = [] ∨ tail = [List.replicate k ' ']) ∧
      lines (join ['\n'] (ps.map (indented k))) =
        (lines (join ['\n'] ps)).map (indented k) ++ tail := by
  rcases List.eq_nil_or_concat' ps with rfl | ⟨init, last, rfl⟩
  · exact ⟨[], Or.inl rfl, rfl⟩
  have hps' : ∀ p ∈ (init ++ [last]).map (indented k), '\n' ∉ p := by
    intro p hp
    obtain ⟨q, hq, rfl⟩ := List.mem_map.mp hp
    rw [mem_indented_iff (by decide)]
    exact hps q hq
  have hreturns : (init.map (indented k)).map dropReturn =
      (init.map dropReturn).map (indented k) := by
    rw [List.map_map, List.map_map]
    exact List.map_congr_left fun l _ => dropReturn_indented k l
  rw [List.map_append, List.map_singleton] at hps' ⊢
  rw [lines_join_concat hps', lines_join_concat hps, List.map_append, hreturns]
  simp only [List.append_assoc]
  cases last with
  | nil =>
    cases k with
    | zero => exact ⟨[], Or.inl rfl, rfl⟩
    | succ k => exact ⟨[List.replicate (k + 1) ' '], Or.inr rfl, by simp [indented]⟩
  | cons c last => exact ⟨[], Or.inl rfl, by simp [indented]⟩

/-- **Moving** all lines of a text to the right by the same number of spaces does not change what
dedenting makes of it. -/
theorem dedent_join_indented (hps : ∀ p ∈ ps, '\n' ∉ p) (k : Nat) :
    dedent (join ['\n'] (ps.map (indented k))) = dedent (join ['\n'] ps) := by
  obtain ⟨tail, htail, hlines⟩ := lines_join_map_indented hps k
  have hblank : ∀ l ∈ tail, isBlank l = true := by
    rcases htail with rfl | rfl
    · simp
    · simpa using isBlank_spaces k
  rw [dedent, hlines, map_cutMargin_indented hblank, dedent]
  rcases htail with rfl | rfl
  · rw [List.map_nil, List.append_nil]
  · rw [List.map_singleton, trimEnd_join_concat_nil]

end Marginalia.Text
