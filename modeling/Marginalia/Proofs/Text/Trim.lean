import Marginalia.Text
import Marginalia.Text.Alphanumeric
import Mathlib.Data.List.Basic
import Mathlib.Data.List.TakeWhile

/-!
# Trimming and cutting

A text is *firm* when it starts and ends with a character one sees, as a keyword does. Trimming
takes a firm text out of the blanks before it (`Firm.trim_append`), and the blanks are its
indentation. Blanks at the end change neither the trimmed text (`trim_append`) nor, where there is
something to see, the indentation (`indent_append`). What is left of any text is nothing or firm
(`trim_eq_nil_or_firm`).

A text is cut at the first place where the character stands (`cutAt_append`), and all that holds of
texts can be shown piece by piece (`piece_induction`). A run of characters of one kind ends where
one of another kind follows (`span_append`).
-/

namespace Marginalia

/-- There are only few blanks, so what no blank is can be looked up. -/
theorem isBlank_eq_false_of {p : Char → Bool}
    (hp : ∀ n ∈ [9, 10, 11, 12, 13, 32, 0x85, 0xA0, 0x1680, 0x2000, 0x2001, 0x2002, 0x2003, 0x2004,
      0x2005, 0x2006, 0x2007, 0x2008, 0x2009, 0x200A, 0x2028, 0x2029, 0x202F, 0x205F, 0x3000],
      p (Char.ofNat n) = false) {c : Char} (h : p c = true) : isBlank c = false := by
  by_contra hb
  rw [Bool.not_eq_false] at hb
  have hc := hp c.toNat (by
    simp only [isBlank, Bool.or_eq_true, Bool.and_eq_true, decide_eq_true_eq, beq_iff_eq] at hb
    simp only [List.mem_cons, List.not_mem_nil, or_false]
    omega)
  rw [Char.ofNat_toNat, h] at hc
  cases hc

theorem isBlank_eq_false_of_isAlphanumeric {c : Char} (h : isAlphanumeric c = true) :
    isBlank c = false :=
  isBlank_eq_false_of (by decide +kernel) h

namespace Text

variable {s t pad : Text} {c : Char}

/-! ### Firm texts -/

/-- The text starts and ends with a character that is not blank. -/
structure Firm (t : Text) : Prop where
  ne_nil : t ≠ []
  head : ∀ c ∈ t.head?, Marginalia.isBlank c = false
  last : ∀ c ∈ t.getLast?, Marginalia.isBlank c = false

instance (t : Text) : Decidable (Firm t) :=
  decidable_of_iff (t ≠ [] ∧ t.head?.all (!Marginalia.isBlank ·) = true ∧
    t.getLast?.all (!Marginalia.isBlank ·) = true) <| by
    simp only [Option.all_eq_true, Bool.not_eq_true']
    exact ⟨fun h => ⟨h.1, h.2.1, h.2.2⟩, fun h => ⟨h.ne_nil, h.head, h.last⟩⟩

theorem trimEnd_of_last (h : ∀ c ∈ t.getLast?, Marginalia.isBlank c = false) : trimEnd t = t := by
  have hrev : t.reverse.dropWhile Marginalia.isBlank = t.reverse := by
    cases hr : t.reverse with
    | nil => rfl
    | cons c r =>
      have hc := h c (by rw [List.getLast?_eq_head?_reverse, hr]; rfl)
      rw [List.dropWhile_cons_of_neg (by simp [hc])]
  rw [trimEnd, hrev, List.reverse_reverse]

namespace Firm

theorem cons_append (h : Firm t) (hc : Marginalia.isBlank c = false) (s : Text) :
    Firm (c :: (s ++ t)) where
  ne_nil := List.cons_ne_nil _ _
  head := by simp [hc]
  last := by
    intro d hd
    rw [← List.cons_append, List.getLast?_append_of_ne_nil _ h.ne_nil] at hd
    exact h.last d hd

/-- A text between firm ones does not matter. -/
theorem append_append (hs : Firm s) (ht : Firm t) (mid : Text) : Firm (s ++ (mid ++ t)) := by
  obtain ⟨c, s, rfl⟩ := List.exists_cons_of_ne_nil hs.ne_nil
  rw [List.cons_append, ← List.append_assoc]
  exact ht.cons_append (hs.head c rfl) (s ++ mid)

theorem trimStart_eq (h : Firm t) : trimStart t = t := by
  cases t with
  | nil => rfl
  | cons c t => rw [trimStart, List.dropWhile_cons_of_neg (by simp [h.head c rfl])]

theorem trimStart_space (h : Firm t) : trimStart (' ' :: t) = t := by
  rw [trimStart, List.dropWhile_cons_of_pos (by decide), ← trimStart, h.trimStart_eq]

theorem trim_append (h : Firm t) (hp : isBlank pad = true) : trim (pad ++ t) = t := by
  have hpad : ∀ c ∈ pad, Marginalia.isBlank c = true := List.all_eq_true.mp hp
  rw [trim, trimStart, List.dropWhile_append_of_pos hpad, ← trimStart, h.trimStart_eq,
    trimEnd_of_last h.last]

theorem trim_eq (h : Firm t) : trim t = t := by rw [trim, h.trimStart_eq, trimEnd_of_last h.last]

theorem indent_append (h : Firm t) (hp : isBlank pad = true) :
    indent (pad ++ t) = pad.length := by
  have hpad : ∀ c ∈ pad, Marginalia.isBlank c = true := List.all_eq_true.mp hp
  have hnil : t.takeWhile Marginalia.isBlank = [] := by
    cases t with
    | nil => rfl
    | cons c t => rw [List.takeWhile_cons_of_neg (by simp [h.head c rfl])]
  rw [indent, List.takeWhile_append_of_pos hpad, hnil, List.append_nil]

theorem isBlank_append (h : Firm t) (pad : Text) : isBlank (pad ++ t) = false := by
  cases t with
  | nil => exact absurd rfl h.ne_nil
  | cons c t => simp [isBlank, h.head c rfl]

end Firm

/-! ### Blanks at the end -/

/-- A text is what trimming its end leaves, and blanks. -/
theorem exists_eq_trimEnd_append (t : Text) : ∃ pad, isBlank pad = true ∧ t = trimEnd t ++ pad := by
  refine ⟨(t.reverse.takeWhile Marginalia.isBlank).reverse, ?_, ?_⟩
  · rw [isBlank, List.all_reverse]
    exact List.all_eq_true.mpr fun _ hc => List.mem_takeWhile_imp hc
  · rw [trimEnd, ← List.reverse_append, List.takeWhile_append_dropWhile, List.reverse_reverse]

theorem trimEnd_append (hp : isBlank pad = true) (t : Text) : trimEnd (t ++ pad) = trimEnd t := by
  have hpad : ∀ c ∈ pad.reverse, Marginalia.isBlank c = true := by
    simpa using List.all_eq_true.mp hp
  rw [trimEnd, List.reverse_append, List.dropWhile_append_of_pos hpad, ← trimEnd]

theorem trimStart_of_isBlank (h : isBlank t = true) : trimStart t = [] :=
  List.dropWhile_eq_nil_iff.mpr (List.all_eq_true.mp h)

theorem trim_append (hp : isBlank pad = true) (t : Text) : trim (t ++ pad) = trim t := by
  rw [trim, trim, trimStart, List.dropWhile_append]
  split
  · rename_i h
    rw [← trimStart, trimStart_of_isBlank hp, trimStart, List.isEmpty_iff.mp h]
  · rw [trimEnd_append hp, trimStart]

/-- Characters of one kind in front end before anything is put behind. -/
theorem takeWhile_append_of_mem {p : Char → Bool} (hc : c ∈ t) (hp : ¬ p c = true) (pad : Text) :
    (t ++ pad).takeWhile p = t.takeWhile p := by
  have hlt : (t.takeWhile p).length ≠ t.length := fun he =>
    hp (List.mem_takeWhile_imp ((List.takeWhile_prefix p).eq_of_length he ▸ hc))
  rw [List.takeWhile_append, if_neg hlt]

theorem indent_append (h : isBlank t = false) (pad : Text) : indent (t ++ pad) = indent t := by
  obtain ⟨c, hc, hb⟩ := List.all_eq_false.mp h
  rw [indent, takeWhile_append_of_mem hc hb, indent]

/-! ### What trimming leaves -/

theorem trimEnd_subset (t : Text) : trimEnd t ⊆ t := by
  obtain ⟨pad, -, hpad⟩ := exists_eq_trimEnd_append t
  exact fun c hc => hpad ▸ List.mem_append_left pad hc

theorem head?_trimStart (t : Text) : ∀ c ∈ (trimStart t).head?, Marginalia.isBlank c = false := by
  intro c hc
  have hhead := List.head?_dropWhile_not Marginalia.isBlank t
  rw [Option.mem_def, trimStart] at hc
  rwa [hc] at hhead

theorem getLast?_trimEnd (t : Text) : ∀ c ∈ (trimEnd t).getLast?, Marginalia.isBlank c = false := by
  intro c hc
  rw [trimEnd, List.getLast?_reverse] at hc
  exact head?_trimStart t.reverse c hc

@[simp] theorem trimEnd_trimEnd (t : Text) : trimEnd (trimEnd t) = trimEnd t :=
  trimEnd_of_last (getLast?_trimEnd t)

@[simp] theorem isBlank_trimEnd (t : Text) : isBlank (trimEnd t) = isBlank t := by
  obtain ⟨pad, hblank, hpad⟩ := exists_eq_trimEnd_append t
  rw [isBlank] at hblank
  conv_rhs => rw [hpad, isBlank, List.all_append, hblank, Bool.and_true, ← isBlank]

/-- Trimming leaves nothing or a firm text. -/
theorem trim_eq_nil_or_firm (t : Text) : trim t = [] ∨ Firm (trim t) := by
  rcases eq_or_ne (trim t) [] with hnil | hne
  · exact Or.inl hnil
  · obtain ⟨pad, -, hpad⟩ := exists_eq_trimEnd_append (trimStart t)
    refine Or.inr ⟨hne, fun c hc => head?_trimStart t c ?_, getLast?_trimEnd (trimStart t)⟩
    rw [hpad, List.head?_append_of_ne_nil (trimEnd (trimStart t)) hne]
    exact hc

/-! ### Cuts -/

theorem cutAt_append (h : c ∉ s) (t : Text) : cutAt c (s ++ c :: t) = some (s, t) := by
  have hs : ∀ d ∈ s, (d != c) = true := fun d hd => bne_iff_ne.mpr fun he => h (he ▸ hd)
  rw [cutAt, List.dropWhile_append_of_pos hs, List.dropWhile_cons_of_neg (by simp),
    List.takeWhile_append_of_pos hs, List.takeWhile_cons_of_neg (by simp), List.append_nil]

theorem cutAt_eq_none (h : c ∉ t) : cutAt c t = none := by
  have ht : ∀ d ∈ t, (d != c) = true := fun d hd => bne_iff_ne.mpr fun he => h (he ▸ hd)
  rw [cutAt, List.dropWhile_eq_nil_iff.mpr ht]

/-- Every text is a piece without `c`, or such a piece, `c` and a text behind it. -/
@[elab_as_elim]
theorem piece_induction {P : Text → Prop} (c : Char) (last : ∀ piece, c ∉ piece → P piece)
    (cons : ∀ piece t, c ∉ piece → P t → P (piece ++ c :: t)) (t : Text) : P t := by
  -- The piece that `t` goes on with is carried along.
  have main : ∀ t piece, c ∉ piece → P (piece ++ t) := by
    intro t
    induction t with
    | nil =>
      intro piece hp
      rw [List.append_nil]
      exact last piece hp
    | cons d t ih =>
      intro piece hp
      by_cases hd : d = c
      · subst hd
        exact cons piece t hp (ih [] List.not_mem_nil)
      · have := ih (piece ++ [d]) (by simp [hp, Ne.symm hd])
        rwa [List.append_assoc] at this
  exact main t [] List.not_mem_nil

theorem not_mem_of_mem_splitOn {piece : Text} (h : piece ∈ t.splitOn c) : c ∉ piece := by
  induction t using piece_induction c with
  | last l hl =>
    rw [List.splitOn_eq_singleton hl, List.mem_singleton] at h
    rwa [h]
  | cons l t hl ih =>
    rw [List.splitOn_append_cons_self_of_not_mem hl, List.mem_cons] at h
    rcases h with rfl | h
    · exact hl
    · exact ih h

/-- The pieces of a text consist of its characters. -/
theorem mem_of_mem_splitOn {piece : Text} {d : Char} (h : piece ∈ t.splitOn c) (hd : d ∈ piece) :
    d ∈ t := by
  induction t using piece_induction c with
  | last l hl =>
    rw [List.splitOn_eq_singleton hl, List.mem_singleton] at h
    rwa [h] at hd
  | cons l t hl ih =>
    rw [List.splitOn_append_cons_self_of_not_mem hl, List.mem_cons] at h
    rw [List.mem_append, List.mem_cons]
    rcases h with rfl | h
    · exact Or.inl hd
    · exact Or.inr (Or.inr (ih h))

theorem exists_splitOn_eq_concat (c : Char) (t : Text) :
    ∃ init last, t.splitOn c = init ++ [last] :=
  ⟨_, _, (List.dropLast_concat_getLast (List.splitOn_ne_nil c t)).symm⟩

/-- The lines of a text by its pieces between line feeds. -/
theorem lines_of_splitOn {init : List Text} {last : Text} (h : t.splitOn '\n' = init ++ [last]) :
    lines t = init.map dropReturn ++ if last.isEmpty then [] else [last] := by
  simp only [lines, h, List.dropLast_concat, List.getLast?_concat, Option.getD_some]

/-- A run of characters ends where the first character of the rest is none of them. -/
theorem span_append {p : Char → Bool} {run rest : Text} (hrun : ∀ c ∈ run, p c = true)
    (hrest : ∀ c ∈ rest.head?, p c = false) :
    (run ++ rest).takeWhile p = run ∧ (run ++ rest).dropWhile p = rest := by
  rw [List.takeWhile_append_of_pos hrun, List.dropWhile_append_of_pos hrun]
  cases rest with
  | nil => exact ⟨List.append_nil _, rfl⟩
  | cons c rest =>
    have hc : ¬ p c = true := Bool.eq_false_iff.mp (hrest c rfl)
    rw [List.takeWhile_cons_of_neg hc, List.dropWhile_cons_of_neg hc, List.append_nil]
    exact ⟨rfl, rfl⟩

theorem trimStart_append_cons (hp : isBlank pad = true) (hc : Marginalia.isBlank c = false)
    (t : Text) : trimStart (pad ++ c :: t) = c :: t :=
  (span_append (List.all_eq_true.mp hp) (by simp [hc])).2

end Text

end Marginalia
