import Marginalia.Collapse
import Marginalia.Proofs.Text.Trim
import Mathlib.Data.List.Basic
import Mathlib.Order.Basic

/-!
# Lines and their margin

Joined lines come apart again (`lines_join`). Where the lines are firm texts behind spaces,
dedenting takes the least number of spaces away from each line and leaves the rest
(`dedent_join`).
-/

namespace Marginalia.Text

variable {t l : Text} {ls : List Text} {m : Nat}

/-! ### Joining lines -/

theorem join_singleton (sep t : Text) : join sep [t] = t := by simp [join, List.intercalate]

theorem join_cons_cons (sep t t' : Text) (ts : List Text) :
    join sep (t :: t' :: ts) = t ++ sep ++ join sep (t' :: ts) :=
  List.intercalate_cons_cons

theorem mem_of_mem_join {sep : Text} {c : Char} (hc : c ∈ join sep ls) :
    c ∈ sep ∨ ∃ l ∈ ls, c ∈ l := by
  induction ls with
  | nil => cases hc
  | cons l ls ih =>
    cases ls with
    | nil =>
      rw [join_singleton] at hc
      exact Or.inr ⟨l, List.mem_cons_self, hc⟩
    | cons l' ls =>
      rw [join_cons_cons, List.mem_append, List.mem_append] at hc
      rcases hc with (hc | hc) | hc
      · exact Or.inr ⟨l, List.mem_cons_self, hc⟩
      · exact Or.inl hc
      · exact (ih hc).imp_right fun ⟨l₁, hl₁, hc₁⟩ => ⟨l₁, List.mem_cons_of_mem _ hl₁, hc₁⟩

theorem map_dropReturn_eq_self (h : ∀ l ∈ ls, l.getLast? ≠ some '\r') : ls.map dropReturn = ls := by
  refine (List.map_congr_left fun l hl => ?_).trans (List.map_id ls)
  rw [dropReturn, if_neg (h l hl), id]

/-- The lines of joined pieces. -/
theorem lines_join_concat {init : List Text} {last : Text}
    (hfeed : ∀ l ∈ init ++ [last], '\n' ∉ l) :
    lines (join ['\n'] (init ++ [last])) =
      init.map dropReturn ++ if last.isEmpty then [] else [last] :=
  lines_of_splitOn (List.splitOn_intercalate '\n' hfeed (by simp))

/-- Lines without line feeds come back from their joined text, when none of them ends with a
carriage return and the last one is not empty. -/
theorem lines_join (hfeed : ∀ l ∈ ls, '\n' ∉ l) (hreturn : ∀ l ∈ ls, l.getLast? ≠ some '\r')
    (hlast : ls.getLast? ≠ some []) : lines (join ['\n'] ls) = ls := by
  rcases List.eq_nil_or_concat' ls with rfl | ⟨init, last, rfl⟩
  · rfl
  · have hne : last.isEmpty = false := by
      cases last with
      | nil => simp at hlast
      | cons c l => rfl
    have hinit : init.map dropReturn = init :=
      map_dropReturn_eq_self fun l hl => hreturn l (List.mem_append_left _ hl)
    rw [lines_join_concat hfeed, hinit, hne, if_neg Bool.false_ne_true]

/-- Before the last line, each line ends with a line feed. -/
theorem join_concat (init : List Text) (last : Text) :
    join ['\n'] (init ++ [last]) = init.flatMap (· ++ ['\n']) ++ last := by
  induction init with
  | nil => exact join_singleton _ _
  | cons l init ih =>
    obtain ⟨l', ls, hcons⟩ := List.exists_cons_of_ne_nil (List.concat_ne_nil last init)
    rw [List.cons_append, hcons, join_cons_cons, ← hcons, ih, List.flatMap_cons,
      List.append_assoc (l ++ ['\n'])]

theorem tail_flatMap_feed (ls : List Text) : (ls.flatMap ('\n' :: ·)).tail = join ['\n'] ls := by
  induction ls with
  | nil => rfl
  | cons l ls ih =>
    cases ls with
    | nil => simp [join_singleton]
    | cons l' ls =>
      rw [join_cons_cons, ← ih]
      simp

/-- A line is a piece between line feeds, or such a piece without the carriage return at its end. -/
theorem exists_prefix_of_mem_lines (hl : l ∈ lines t) : ∃ piece ∈ t.splitOn '\n', l <+: piece := by
  obtain ⟨init, last, hsplit⟩ := exists_splitOn_eq_concat '\n' t
  rw [lines_of_splitOn hsplit, List.mem_append] at hl
  rw [hsplit]
  rcases hl with hl | hl
  · obtain ⟨piece, hpiece, rfl⟩ := List.mem_map.mp hl
    refine ⟨piece, List.mem_append_left _ hpiece, ?_⟩
    unfold dropReturn
    split_ifs
    · exact List.dropLast_prefix piece
    · exact List.prefix_rfl
  · split_ifs at hl
    · cases hl
    · rw [List.mem_singleton.mp hl]
      exact ⟨last, by simp, List.prefix_rfl⟩

theorem not_mem_of_mem_lines (hl : l ∈ lines t) : '\n' ∉ l := by
  obtain ⟨piece, hpiece, hpre⟩ := exists_prefix_of_mem_lines hl
  exact fun hc => not_mem_of_mem_splitOn hpiece (hpre.subset hc)

/-- The lines of a text consist of its characters. -/
theorem subset_of_mem_lines (hl : l ∈ lines t) : l ⊆ t := by
  obtain ⟨piece, hpiece, hpre⟩ := exists_prefix_of_mem_lines hl
  exact fun c hc => mem_of_mem_splitOn hpiece (hpre.subset hc)

/-- A text behind `n` spaces. -/
def indented (n : Nat) (t : Text) : Text := List.replicate n ' ' ++ t

theorem mem_indented_iff {c : Char} (hc : c ≠ ' ') (n : Nat) : c ∈ indented n t ↔ c ∈ t := by
  simp [indented, hc]

theorem Firm.getLast?_indented (h : Firm t) (n : Nat) : (indented n t).getLast? = t.getLast? :=
  List.getLast?_append_of_ne_nil _ h.ne_nil

theorem spaces_indented (n : Nat) (t : Text) : spaces (indented n t) = n + spaces t := by
  have hpad : ∀ c ∈ List.replicate n ' ', (c == ' ') = true := by
    intro c hc
    rw [List.eq_of_mem_replicate hc, beq_self_eq_true]
  rw [spaces, indented, List.takeWhile_append_of_pos hpad, List.length_append,
    List.length_replicate, spaces]

theorem Firm.spaces_indented (h : Firm t) (n : Nat) : spaces (indented n t) = n := by
  have hnil : t.takeWhile (· == ' ') = [] := by
    cases t with
    | nil => rfl
    | cons c t =>
      refine List.takeWhile_cons_of_neg fun hc => ?_
      have hblank := h.head c rfl
      rw [eq_of_beq hc] at hblank
      exact absurd hblank (by decide)
  rw [Text.spaces_indented, spaces, hnil, List.length_nil, Nat.add_zero]

/-! ### Margins -/

section Least

variable {α : Type} {as : List α} {a : α} {f : α → Nat}

theorem getD_min?_le (ha : a ∈ as) : (as.map f).min?.getD 0 ≤ f a := by
  have hmem : f a ∈ as.map f := List.mem_map_of_mem ha
  cases hm : (as.map f).min? with
  | none => exact Nat.zero_le _
  | some m => exact (List.min?_eq_some_iff.mp hm).2 _ hmem

theorem exists_eq_getD_min? (h : as ≠ []) : ∃ a ∈ as, f a = (as.map f).min?.getD 0 := by
  cases hm : (as.map f).min? with
  | none => exact absurd (List.map_eq_nil_iff.mp (List.min?_eq_none_iff.mp hm)) h
  | some m => exact List.mem_map.mp (List.min?_eq_some_iff.mp hm).1

end Least

/-- No line that shows something starts before the margin. -/
theorem margin_le (hl : l ∈ ls) (hb : isBlank l = false) : margin ls ≤ spaces l :=
  getD_min?_le (List.mem_filter.mpr ⟨hl, by simp [hb]⟩)

/-- Some line that shows something starts at the margin. -/
theorem exists_spaces_eq_margin (hl : l ∈ ls) (hb : isBlank l = false) :
    ∃ l ∈ ls, isBlank l = false ∧ spaces l = margin ls := by
  have hmem : l ∈ ls.filter (!isBlank ·) := List.mem_filter.mpr ⟨hl, by simp [hb]⟩
  obtain ⟨l', hl', hs⟩ := exists_eq_getD_min? (f := spaces) (List.ne_nil_of_mem hmem)
  obtain ⟨hl', hb'⟩ := List.mem_filter.mp hl'
  exact ⟨l', hl', by simpa using hb', hs⟩

/-- The margin is the least number of spaces in front of a line that shows something. -/
theorem margin_eq (hmem : ∃ l ∈ ls, isBlank l = false ∧ spaces l = m)
    (hle : ∀ l ∈ ls, isBlank l = false → m ≤ spaces l) : margin ls = m := by
  obtain ⟨l, hl, hb, hm⟩ := hmem
  obtain ⟨l', hl', hb', hs⟩ := exists_spaces_eq_margin hl hb
  exact le_antisymm ((margin_le hl hb).trans_eq hm) ((hle l' hl' hb').trans_eq hs)

section Indented

variable {ps : List (Nat × Text)}

theorem lines_join_indented (hfirm : ∀ p ∈ ps, Firm p.2 ∧ '\n' ∉ p.2) :
    lines (join ['\n'] (ps.map fun p => indented p.1 p.2)) = ps.map fun p => indented p.1 p.2 := by
  refine lines_join (fun l hl => ?_) (fun l hl hret => ?_) fun hnil => ?_
  · obtain ⟨p, hp, rfl⟩ := List.mem_map.mp hl
    rw [mem_indented_iff (by decide)]
    exact (hfirm p hp).2
  · obtain ⟨p, hp, rfl⟩ := List.mem_map.mp hl
    rw [(hfirm p hp).1.getLast?_indented] at hret
    exact absurd ((hfirm p hp).1.last _ hret) (by decide)
  · obtain ⟨p, hp, he⟩ := List.mem_map.mp (List.mem_of_getLast? hnil)
    exact (hfirm p hp).1.ne_nil (List.append_eq_nil_iff.mp he).2

theorem margin_indented (hfirm : ∀ p ∈ ps, Firm p.2) (hle : ∀ p ∈ ps, m ≤ p.1)
    (hmem : ∃ p ∈ ps, p.1 = m) : margin (ps.map fun p => indented p.1 p.2) = m := by
  refine margin_eq ?_ fun l hl _ => ?_
  · obtain ⟨p, hp, hm⟩ := hmem
    refine ⟨indented p.1 p.2, List.mem_map.mpr ⟨p, hp, rfl⟩, (hfirm p hp).isBlank_append _, ?_⟩
    rw [(hfirm p hp).spaces_indented, hm]
  · obtain ⟨p, hp, rfl⟩ := List.mem_map.mp hl
    rw [(hfirm p hp).spaces_indented]
    exact hle p hp

theorem Firm.cutMargin_indented (h : Firm t) {n : Nat} (hm : m ≤ n) :
    cutMargin m (indented n t) = indented (n - m) t := by
  rw [cutMargin, indented, h.isBlank_append, if_neg Bool.false_ne_true,
    List.drop_append_of_le_length (by rwa [List.length_replicate]), List.drop_replicate, indented]

theorem trimEnd_join_indented (hfirm : ∀ p ∈ ps, Firm p.2) :
    trimEnd (join ['\n'] (ps.map fun p => indented p.1 p.2)) =
      join ['\n'] (ps.map fun p => indented p.1 p.2) := by
  refine trimEnd_of_last fun c hc => ?_
  rcases List.eq_nil_or_concat' ps with rfl | ⟨init, last, rfl⟩
  · cases hc
  · have hf := hfirm last (by simp)
    rw [List.map_append, List.map_singleton, join_concat, List.getLast?_append_of_ne_nil _
      (show indented last.1 last.2 ≠ [] from List.append_ne_nil_of_right_ne_nil _ hf.ne_nil),
      hf.getLast?_indented] at hc
    exact hf.last c hc

/-- **Dedenting** lines that are firm texts behind spaces takes the least number of spaces away from
each. -/
theorem dedent_join (hfirm : ∀ p ∈ ps, Firm p.2 ∧ '\n' ∉ p.2) (hle : ∀ p ∈ ps, m ≤ p.1)
    (hmem : ps ≠ [] → ∃ p ∈ ps, p.1 = m) :
    dedent (join ['\n'] (ps.map fun p => indented p.1 p.2)) =
      join ['\n'] (ps.map fun p => indented (p.1 - m) p.2) := by
  have hcut : (ps.map fun p => indented p.1 p.2).map
      (cutMargin (margin (ps.map fun p => indented p.1 p.2))) =
      ps.map fun p => indented (p.1 - m) p.2 := by
    rw [List.map_map]
    refine List.map_congr_left fun p hp => ?_
    rw [Function.comp_apply,
      margin_indented (fun q hq => (hfirm q hq).1) hle (hmem (List.ne_nil_of_mem hp)),
      (hfirm p hp).1.cutMargin_indented (hle p hp)]
  have hfirm' : ∀ p ∈ ps.map fun p => (p.1 - m, p.2), Firm p.2 := by
    intro q hq
    obtain ⟨p, hp, rfl⟩ := List.mem_map.mp hq
    exact (hfirm p hp).1
  have htrim := trimEnd_join_indented hfirm'
  rw [List.map_map] at htrim
  rw [dedent, lines_join_indented hfirm, hcut]
  exact htrim

end Indented

end Marginalia.Text
