import Marginalia.Proofs.Text.Dedent
import Mathlib.Data.List.Induction

/-!
# Flush lines

Lines are *flush* when nothing is left to be taken away from them: blank lines are empty, some line
that shows something starts without a space, and the last line ends with a character one sees
(`Flush`). Dedenting a text of flush lines leaves it as it is (`Flush.dedent_join`), and what
dedenting makes of a text that shows something are flush lines (`exists_flush`). So to dedent twice
is to dedent once.

With carriage returns this fails: the first time takes one from the end of a line, the second time
takes the next one. Hence they are left out here.
-/

namespace Marginalia.Text

variable {k : Nat} {t u l : Text} {ls : List Text}

/-! ### Ends of lines -/

theorem spaces_eq_zero_iff : spaces l = 0 ↔ l.head? ≠ some ' ' := by
  rw [spaces, List.length_eq_zero_iff]
  cases l <;> simp [List.takeWhile_cons]

theorem spaces_trimEnd (hb : isBlank l = false) : spaces (trimEnd l) = spaces l := by
  obtain ⟨pad, -, hpad⟩ := exists_eq_trimEnd_append l
  obtain ⟨c, hc, hcb⟩ := List.all_eq_false.mp ((isBlank_trimEnd l).trans hb)
  have hspace : ¬ (c == ' ') = true := by
    rw [beq_iff_eq]
    rintro rfl
    exact hcb (by decide)
  conv_rhs => rw [hpad, spaces, takeWhile_append_of_mem hc hspace, ← spaces]

theorem trimEnd_join_concat {last : Text} (hb : isBlank last = false) (init : List Text) :
    trimEnd (join ['\n'] (init ++ [last])) = join ['\n'] (init ++ [trimEnd last]) := by
  obtain ⟨pad, hblank, hpad⟩ := exists_eq_trimEnd_append last
  have hne : trimEnd last ≠ [] := by
    intro hnil
    rw [← isBlank_trimEnd, hnil] at hb
    cases hb
  have hjoin : join ['\n'] (init ++ [last]) = join ['\n'] (init ++ [trimEnd last]) ++ pad := by
    conv_lhs => rw [join_concat, hpad, ← List.append_assoc, ← join_concat]
  rw [hjoin, trimEnd_append hblank]
  refine trimEnd_of_last fun c hc => ?_
  rw [join_concat, List.getLast?_append_of_ne_nil _ hne] at hc
  exact getLast?_trimEnd last c hc

/-- Where blank lines are empty, white space at the end of a text goes with the lines behind the
last one that shows something, and with the end of that line. -/
theorem exists_trimEnd_join (hblank : ∀ l ∈ ls, isBlank l = true → l = [])
    (hshown : ∃ l ∈ ls, isBlank l = false) :
    ∃ init last, init ++ [last] <+: ls ∧ isBlank last = false ∧
      (∀ l ∈ ls, isBlank l = false → l ∈ init ++ [last]) ∧
      trimEnd (join ['\n'] ls) = join ['\n'] (init ++ [trimEnd last]) := by
  induction ls using List.reverseRecOn with
  | nil =>
    obtain ⟨l, hl, -⟩ := hshown
    cases hl
  | append_singleton ls l ih =>
    by_cases hb : isBlank l = true
    · obtain rfl := hblank l (by simp) hb
      have hmem : ∀ l ∈ ls ++ [[]], isBlank l = false → l ∈ ls := by
        intro l hl hlb
        rcases List.mem_append.mp hl with hl | hl
        · exact hl
        · rw [List.mem_singleton.mp hl] at hlb
          cases hlb
      obtain ⟨l₀, hl₀, hb₀⟩ := hshown
      obtain ⟨init, last, hpre, hlast, hin, htrim⟩ :=
        ih (fun l hl => hblank l (List.mem_append_left _ hl)) ⟨l₀, hmem l₀ hl₀ hb₀, hb₀⟩
      exact ⟨init, last, hpre.trans (List.prefix_append _ _), hlast,
        fun l hl hlb => hin l (hmem l hl hlb) hlb, (trimEnd_join_concat_nil ls).trans htrim⟩
    · rw [Bool.not_eq_true] at hb
      exact ⟨ls, l, List.prefix_rfl, hb, fun _ hl _ => hl, trimEnd_join_concat hb ls⟩

/-! ### Flush lines -/

/-- Lines without line feeds and carriage returns from which nothing can be taken away. -/
structure Flush (ls : List Text) : Prop where
  /-- No line goes over its end. -/
  feed : ∀ l ∈ ls, '\n' ∉ l
  /-- There are no carriage returns. -/
  bare : ∀ l ∈ ls, '\r' ∉ l
  /-- A blank line is empty. -/
  blank : ∀ l ∈ ls, isBlank l = true → l = []
  /-- Some line that shows something starts without a space. -/
  start : ∃ l ∈ ls, isBlank l = false ∧ spaces l = 0
  /-- The last line shows something, and nothing blank is behind that. -/
  finish : ∃ init last, ls = init ++ [last] ∧ isBlank last = false ∧ trimEnd last = last

namespace Flush

theorem lines_join (h : Flush ls) : lines (join ['\n'] ls) = ls := by
  have hreturn : ∀ l ∈ ls, l.getLast? ≠ some '\r' :=
    fun l hl hr => h.bare l hl (List.mem_of_getLast? hr)
  refine Text.lines_join h.feed hreturn fun hnil => ?_
  obtain ⟨init, last, rfl, hlast, -⟩ := h.finish
  rw [List.getLast?_concat, Option.some.injEq] at hnil
  rw [hnil] at hlast
  cases hlast

theorem dedent_join (h : Flush ls) : dedent (join ['\n'] ls) = join ['\n'] ls := by
  have hmargin : margin ls = 0 := margin_eq h.start fun _ _ _ => Nat.zero_le _
  have hcut : ls.map (cutMargin 0) = ls := by
    refine (List.map_congr_left fun l hl => ?_).trans (List.map_id ls)
    rw [cutMargin]
    split_ifs with hb
    · exact (h.blank l hl hb).symm
    · rfl
  obtain ⟨init, last, hsplit, hlast, htrim⟩ := h.finish
  rw [dedent, h.lines_join, hmargin, hcut, hsplit, trimEnd_join_concat hlast, htrim]

end Flush

/-- Lines that only white space at the end of their text keeps from being flush. -/
theorem exists_flush_trimEnd (hfeed : ∀ l ∈ ls, '\n' ∉ l) (hbare : ∀ l ∈ ls, '\r' ∉ l)
    (hblank : ∀ l ∈ ls, isBlank l = true → l = [])
    (hstart : ∃ l ∈ ls, isBlank l = false ∧ spaces l = 0) :
    ∃ ls', Flush ls' ∧ trimEnd (join ['\n'] ls) = join ['\n'] ls' := by
  obtain ⟨l₀, hl₀, hb₀, hs₀⟩ := hstart
  obtain ⟨init, last, hpre, hlast, hin, htrim⟩ := exists_trimEnd_join hblank ⟨l₀, hl₀, hb₀⟩
  have hinit : ∀ l ∈ init, l ∈ ls := fun l hl => hpre.subset (List.mem_append_left _ hl)
  have hshown : isBlank (trimEnd last) = false := (isBlank_trimEnd last).trans hlast
  have hfree : ∀ c, (∀ l ∈ ls, c ∉ l) → ∀ l ∈ init ++ [trimEnd last], c ∉ l := by
    intro c hc
    rw [List.forall_mem_append, List.forall_mem_singleton]
    exact ⟨fun l hl => hc l (hinit l hl),
      fun hmem => hc last (hpre.subset (by simp)) (trimEnd_subset last hmem)⟩
  refine ⟨init ++ [trimEnd last], ⟨hfree '\n' hfeed, hfree '\r' hbare, ?_, ?_,
    init, trimEnd last, rfl, hshown, trimEnd_trimEnd last⟩, htrim⟩
  · rw [List.forall_mem_append, List.forall_mem_singleton, hshown]
    exact ⟨fun l hl => hblank l (hinit l hl), fun h => by cases h⟩
  · -- trimming the end of the last line leaves its start as it is
    rcases List.mem_append.mp (hin l₀ hl₀ hb₀) with hmem | hmem
    · exact ⟨l₀, List.mem_append_left _ hmem, hb₀, hs₀⟩
    · obtain rfl := List.mem_singleton.mp hmem
      exact ⟨trimEnd l₀, by simp, hshown, (spaces_trimEnd hb₀).trans hs₀⟩

/-! ### What dedenting gives -/

theorem isBlank_cutMargin_margin (hl : l ∈ ls) :
    isBlank (cutMargin (margin ls) l) = isBlank l := by
  cases hb : isBlank l with
  | true => rw [cutMargin_of_isBlank hb]; rfl
  | false =>
    have hsplit := eq_spaces_append_drop_margin hl hb
    rw [← indented] at hsplit
    rw [cutMargin, hb, if_neg Bool.false_ne_true, ← isBlank_indented (margin ls), ← hsplit, hb]

theorem spaces_cutMargin_margin (hl : l ∈ ls) (hb : isBlank l = false) :
    margin ls + spaces (cutMargin (margin ls) l) = spaces l := by
  have hsplit := eq_spaces_append_drop_margin hl hb
  rw [← indented] at hsplit
  rw [cutMargin, hb, if_neg Bool.false_ne_true, ← spaces_indented, ← hsplit]

theorem cutMargin_subset (n : Nat) (l : Text) : cutMargin n l ⊆ l := by
  unfold cutMargin
  split_ifs
  · exact List.nil_subset _
  · exact List.drop_subset _ _

theorem dedent_of_isBlank (h : ∀ l ∈ lines t, isBlank l = true) : dedent t = [] := by
  have hvisible : ∀ c ∈ dedent t, Marginalia.isBlank c = true := by
    rw [← visible_eq_nil_iff, visible_dedent, ← flatMap_visible_lines, List.flatMap_eq_nil_iff]
    exact fun l hl => visible_of_isBlank (h l hl)
  have htrim : trimEnd (dedent t) = dedent t := trimEnd_trimEnd _
  rw [← htrim, trimEnd, List.dropWhile_eq_nil_iff.mpr (by simpa using hvisible), List.reverse_nil]

/-- The line that the margin comes from starts without a space when it is cut. -/
theorem exists_cutMargin_margin (hshown : ∃ l ∈ ls, isBlank l = false) :
    ∃ l ∈ ls.map (cutMargin (margin ls)), isBlank l = false ∧ spaces l = 0 := by
  obtain ⟨l₀, hl₀, hb₀⟩ := hshown
  obtain ⟨l, hl, hb, hs⟩ := exists_spaces_eq_margin hl₀ hb₀
  have hsum := spaces_cutMargin_margin hl hb
  rw [hs] at hsum
  exact ⟨_, List.mem_map_of_mem hl, (isBlank_cutMargin_margin hl).trans hb, Nat.add_eq_left.mp hsum⟩

/-- **Dedenting** a text that shows something gives flush lines. -/
theorem exists_flush (ht : '\r' ∉ t) (hshown : ∃ l ∈ lines t, isBlank l = false) :
    ∃ ls, Flush ls ∧ dedent t = join ['\n'] ls := by
  rw [dedent]
  refine exists_flush_trimEnd ?_ ?_ ?_ (exists_cutMargin_margin hshown)
  · exact List.forall_mem_map.mpr fun l hl hc =>
      not_mem_of_mem_lines hl (cutMargin_subset _ l hc)
  · exact List.forall_mem_map.mpr fun l hl hc =>
      ht (subset_of_mem_lines hl (cutMargin_subset _ l hc))
  · exact List.forall_mem_map.mpr fun l hl hb =>
      cutMargin_of_isBlank ((isBlank_cutMargin_margin hl).symm.trans hb) _

/-- What dedenting makes of a text depends on its lines only, and not on how far they all are to the
right. -/
theorem dedent_of_lines_eq (h : lines u = (lines t).map (indented k)) : dedent u = dedent t := by
  have hcut := @map_cutMargin_indented (lines t) [] (by simp) k
  rw [List.append_nil, List.map_nil, List.append_nil] at hcut
  rw [dedent, h, hcut, dedent]

/-- **Dedenting** takes away the margin and nothing else: a blank line becomes empty, from every
other one the margin is taken, which consists of spaces, and white space at the end is lost. The
result is empty or shows something in a line that does not start with a space; to dedent it again
changes nothing. The same number of spaces in front of every line does not change the result,
whether or not they stand behind a final line feed too. -/
theorem dedent_exact (t : Text) (ht : '\r' ∉ t) :
    (∀ k, dedent (join ['\n'] ((t.splitOn '\n').map (indented k))) = dedent t) ∧
      (∀ k u, lines u = (lines t).map (indented k) → dedent u = dedent t) ∧
      dedent (dedent t) = dedent t ∧
      (dedent t = [] ∨ ∃ l ∈ lines (dedent t), isBlank l = false ∧ l.head? ≠ some ' ') ∧
      ∃ m, IsMargin (lines t) m ∧
        (∀ l ∈ lines t, isBlank l = false → l = List.replicate m ' ' ++ l.drop m) ∧
        dedent t = trimEnd (join ['\n']
          ((lines t).map fun l => if isBlank l then [] else l.drop m)) := by
  have hpieces : ∀ k, dedent (join ['\n'] ((t.splitOn '\n').map (indented k))) = dedent t := by
    intro k
    rw [dedent_join_indented (fun _ hp => not_mem_of_mem_splitOn hp), join,
      List.intercalate_splitOn]
  have hmargin : ∃ m, IsMargin (lines t) m ∧
      (∀ l ∈ lines t, isBlank l = false → l = List.replicate m ' ' ++ l.drop m) ∧
      dedent t = trimEnd (join ['\n']
        ((lines t).map fun l => if isBlank l then [] else l.drop m)) :=
    ⟨margin (lines t), isMargin_margin _, fun _ hl hb => eq_spaces_append_drop_margin hl hb, rfl⟩
  refine ⟨hpieces, fun _ _ => dedent_of_lines_eq, ?_⟩
  by_cases hshown : ∃ l ∈ lines t, isBlank l = false
  · obtain ⟨ls, hflush, hdedent⟩ := exists_flush ht hshown
    obtain ⟨l, hl, hb, hs⟩ := hflush.start
    have hagain : dedent (dedent t) = dedent t := by rw [hdedent, hflush.dedent_join]
    have hmem : l ∈ lines (dedent t) := by rwa [hdedent, hflush.lines_join]
    exact ⟨hagain, Or.inr ⟨l, hmem, hb, spaces_eq_zero_iff.mp hs⟩, hmargin⟩
  · have hnil : dedent t = [] := dedent_of_isBlank (by simpa using hshown)
    exact ⟨by rw [hnil]; rfl, Or.inl hnil, hmargin⟩

/-- A blank line too short for the margin, a tab behind the margin, a no-break space at the end, and
all lines moved by 3, also behind the final line feed. -/
theorem dedent_exact_blank_lines :
    let t := " \n  \ta \n\n    b\u00a0\n  \n".toList
    let u := "    \n     \ta \n   \n       b\u00a0\n     \n   ".toList
    '\r' ∉ t ∧ dedent t = "\n\ta \n\n  b".toList ∧ dedent (dedent t) = dedent t ∧
      dedent u = dedent t := by
  intro t u
  have ht : '\r' ∉ t := by decide +kernel
  obtain ⟨hmoved, -, hagain, -, m, hm, -, hvalue⟩ := dedent_exact t ht
  have hm : m = 2 := (isMargin_iff.mp hm).symm.trans (by decide +kernel)
  refine ⟨ht, ?_, hagain, ?_⟩
  · rw [hvalue, hm]
    decide +kernel
  · rw [← hmoved 3]
    exact congrArg dedent (by decide +kernel)

/-- Of two carriage returns at the end of a line, each time takes one. -/
example : dedent "a\r\r\nb".toList = "a\r\nb".toList ∧
    dedent "a\r\nb".toList = "a\nb".toList := by
  decide +kernel

end Marginalia.Text
