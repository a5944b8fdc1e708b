import Marginalia.Proofs.Annotation.Counting
import Marginalia.Proofs.Text.Lines
import Mathlib.Data.List.Infix

/-!
# Annotations read back

A keyword consists of letters, numbers and dots, a flag of letters and numbers, and a value has no
blanks around it (`KeywordLine.WellFormed`). Whatever a line is, what is read from it is well
formed.

In a written annotation each part is followed by a character that it cannot contain: the keyword by
a mark, a backtick or a space, the marks by a backtick or a space, a flag by a comma or a backtick.
So no part takes a character from the next one, and a well-formed annotation is read back as it was
written, with any number of marks (`ofText_toText`). Its index is what the marks make of the index
of the line, if the numbers counted on the way are in range.
-/

namespace Marginalia

namespace KeywordLine

variable {k : KeywordLine} {index : Int} {m n : Nat}

/-- The parts of an annotation consist of what they can consist of. -/
structure WellFormed (k : KeywordLine) : Prop where
  /-- A keyword consists of letters, numbers and dots. -/
  keyword : ∀ c ∈ k.keyword, isKeywordChar c = true
  /-- A flag consists of letters and numbers, one at least. -/
  flags : ∀ f ∈ k.flags, f ≠ [] ∧ ∀ c ∈ f, isAlphanumeric c = true
  /-- There are no blanks around a value. -/
  value : k.value = [] ∨ Text.Firm k.value

/-! ### What is read is well formed -/

theorem of_mem_readFlags {marks f : Text} (hf : f ∈ readFlags marks) :
    f ≠ [] ∧ ∀ c ∈ f, isAlphanumeric c = true := by
  unfold readFlags at hf
  split at hf
  · split_ifs at hf
    · obtain ⟨hpiece, hne⟩ := List.mem_filter.mp hf
      refine ⟨by simpa using hne, fun c hc => ?_⟩
      have hchar := (List.mem_filter.mp (Text.mem_of_mem_splitOn hpiece hc)).2
      rw [Bool.or_eq_true, beq_iff_eq] at hchar
      exact hchar.resolve_right fun hcomma => Text.not_mem_of_mem_splitOn hpiece (hcomma ▸ hc)
    · cases hf
  · cases hf

theorem wellFormed_readHead (head : Text) (index : Int) : (readHead head index).WellFormed where
  keyword _ hc := List.mem_takeWhile_imp hc
  flags _ hf := of_mem_readFlags hf
  value := Or.inl rfl

theorem wellFormed_ofText (line : Text) (index : Int) : (ofText line index).WellFormed := by
  unfold ofText
  split
  · exact ⟨List.forall_mem_nil _, List.forall_mem_nil _, Or.inl rfl⟩
  · split
    · exact wellFormed_readHead _ _
    · rename_i head value _
      have hhead := wellFormed_readHead (Text.trim head) index
      exact ⟨hhead.keyword, hhead.flags, Text.trim_eq_nil_or_firm value⟩

/-! ### What is written is read back -/

/-- The flags as they are written. -/
def flagText (flags : List Text) : Text :=
  if flags.isEmpty then [] else '`' :: Text.join [','] flags ++ ['`']

/-- The keyword with all that is written behind it without a space. -/
def headText (k : KeywordLine) (m n : Nat) : Text :=
  k.keyword ++ (List.replicate m '<' ++ (List.replicate n '>' ++ flagText k.flags))

theorem toText_eq (k : KeywordLine) (m n : Nat) :
    k.toText m n = '.' :: (k.headText m n ++ if k.value.isEmpty then [] else ' ' :: k.value) := by
  simp only [toText, headText, flagText, List.append_assoc, List.cons_append]

theorem head?_flagText (flags : List Text) : ∀ c ∈ (flagText flags).head?, c = '`' := by
  intro c hc
  unfold flagText at hc
  split_ifs at hc
  · cases hc
  · exact (Option.some.inj hc).symm

theorem head?_replicate_append {p : Char → Prop} {c : Char} {rest : Text} (hp : p c)
    (hrest : ∀ d ∈ rest.head?, p d) (n : Nat) : ∀ d ∈ (List.replicate n c ++ rest).head?, p d := by
  cases n with
  | zero => exact hrest
  | succ n =>
    intro d hd
    rw [← Option.some.inj hd]
    exact hp

theorem readFlags_flagText {flags : List Text}
    (h : ∀ f ∈ flags, f ≠ [] ∧ ∀ c ∈ f, isAlphanumeric c = true) :
    readFlags (flagText flags) = flags := by
  cases flags with
  | nil => rfl
  | cons f fs =>
    have hcomma : isAlphanumeric ',' = false := by decide +kernel
    have hchars : ∀ c ∈ Text.join [','] (f :: fs), (isAlphanumeric c || c == ',') = true := by
      intro c hc
      rw [Bool.or_eq_true, beq_iff_eq]
      rcases Text.mem_of_mem_join hc with hc | ⟨g, hg, hc⟩
      · exact Or.inr (List.mem_singleton.mp hc)
      · exact Or.inl ((h g hg).2 c hc)
    have hsplit : (Text.join [','] (f :: fs)).splitOn ',' = f :: fs := by
      refine List.splitOn_intercalate ',' (fun g hg hmem => ?_) (List.cons_ne_nil _ _)
      rw [(h g hg).2 ',' hmem] at hcomma
      cases hcomma
    have hfull : ∀ g ∈ f :: fs, (!g.isEmpty) = true := fun g hg => by simpa using (h g hg).1
    simp only [flagText, List.isEmpty_cons, Bool.false_eq_true, if_false, List.cons_append,
      readFlags, List.getLast?_concat, if_true, List.dropLast_concat, hsplit,
      List.filter_eq_self.mpr hchars, List.filter_eq_self.mpr hfull]

/-- Each mark of an annotation is counted. -/
theorem marks_headText (hk : k.WellFormed) (m n : Nat) :
    outdents (k.headText m n) = m ∧ indents (k.headText m n) = n ∧
      (k.headText m n).takeWhile isKeywordChar = k.keyword ∧
      (((k.headText m n).dropWhile isKeywordChar).dropWhile (· == '<')).dropWhile (· == '>') =
        flagText k.flags := by
  have hindents : ∀ p : Char → Prop, p '>' → p '`' →
      ∀ c ∈ (List.replicate n '>' ++ flagText k.flags).head?, p c := fun p hindent hflag =>
    head?_replicate_append hindent (fun c hc => head?_flagText _ c hc ▸ hflag) n
  have houtdents : ∀ p : Char → Prop, p '<' → p '>' → p '`' →
      ∀ c ∈ (List.replicate m '<' ++ (List.replicate n '>' ++ flagText k.flags)).head?, p c :=
    fun p houtdent hindent hflag =>
      head?_replicate_append houtdent (hindents p hindent hflag) m
  have hrun : ∀ (c : Char) (j : Nat), ∀ d ∈ List.replicate j c, (d == c) = true := fun c j d hd =>
    beq_iff_eq.mpr (List.eq_of_mem_replicate hd)
  obtain ⟨hkeyword, hmarks⟩ := Text.span_append hk.keyword
    (houtdents (isKeywordChar · = false) (by decide +kernel) (by decide +kernel)
      (by decide +kernel))
  obtain ⟨hlowered, hraised⟩ := Text.span_append (hrun '<' m)
    (hindents ((· == '<') · = false) (by decide) (by decide))
  have hflag : ∀ c ∈ (flagText k.flags).head?, (c == '>') = false := fun c hc => by
    rw [head?_flagText _ c hc]
    decide
  obtain ⟨hindent, hflags⟩ := Text.span_append (hrun '>' n) hflag
  simp only [outdents, indents, headText, hkeyword, hmarks, hlowered, hraised, hindent, hflags,
    List.length_replicate, and_self]

theorem readHead_headText (hk : k.WellFormed) (m n : Nat) (index : Int) :
    readHead (k.headText m n) index =
      { keyword := k.keyword, flags := k.flags, index := index - m + n } := by
  obtain ⟨houtdents, hindents, hkeyword, hflags⟩ := marks_headText hk m n
  have hindex := index_readHead (k.headText m n) index
  rw [houtdents, hindents] at hindex
  rw [← hindex, ← readFlags_flagText hk.flags, ← hflags, ← hkeyword]
  rfl

/-- There are no blanks in the head of an annotation. -/
theorem isBlank_of_mem_headText (hk : k.WellFormed) {c : Char} (hc : c ∈ k.headText m n) :
    isBlank c = false := by
  have halpha : ∀ {c : Char}, isAlphanumeric c = true → isBlank c = false :=
    isBlank_eq_false_of_isAlphanumeric
  simp only [headText, flagText, List.mem_append, List.mem_replicate] at hc
  rcases hc with hc | ⟨-, rfl⟩ | ⟨-, rfl⟩ | hc
  · have hchar := hk.keyword c hc
    rw [isKeywordChar, Bool.or_eq_true, beq_iff_eq] at hchar
    rcases hchar with hchar | rfl
    · exact halpha hchar
    · decide
  · decide
  · decide
  · split_ifs at hc
    · cases hc
    · simp only [List.cons_append, List.mem_cons, List.mem_append, List.not_mem_nil, or_false] at hc
      rcases hc with rfl | hc | rfl
      · decide
      · rcases Text.mem_of_mem_join hc with hc | ⟨f, hf, hc⟩
        · rw [List.mem_singleton.mp hc]
          decide
        · exact halpha ((hk.flags f hf).2 c hc)
      · decide

theorem trim_headText (hk : k.WellFormed) : Text.trim (k.headText m n) = k.headText m n := by
  rcases eq_or_ne (k.headText m n) [] with hnil | hne
  · rw [hnil]
    rfl
  · refine Text.Firm.trim_eq ⟨hne, fun c hc => ?_, fun c hc => ?_⟩
    · exact isBlank_of_mem_headText hk (List.mem_of_head? hc)
    · exact isBlank_of_mem_headText hk (List.mem_of_getLast? hc)

/-- The keyword, the marks and the flags are the head of a written annotation. -/
theorem cutAt_toText (hk : k.WellFormed) (m n : Nat) :
    ∃ region, Text.cutAt '.' (k.toText m n) = some ([], region) ∧
      ((k.value = [] ∧ region = k.headText m n ∧ Text.cutAt ' ' region = none) ∨
        (k.value ≠ [] ∧ Text.cutAt ' ' region = some (k.headText m n, k.value))) := by
  have hspace : ' ' ∉ k.headText m n := fun hmem => by
    have hblank := isBlank_of_mem_headText hk hmem
    exact absurd hblank (by decide)
  refine ⟨_, toText_eq k m n ▸ Text.cutAt_append (s := []) List.not_mem_nil _, ?_⟩
  by_cases hnil : k.value = []
  · have hregion : (k.headText m n ++ if k.value.isEmpty then [] else ' ' :: k.value) =
        k.headText m n := by
      rw [hnil, List.isEmpty_nil, if_pos rfl, List.append_nil]
    rw [hregion]
    exact .inl ⟨hnil, rfl, Text.cutAt_eq_none hspace⟩
  · rw [if_neg (mt List.isEmpty_iff.mp hnil)]
    exact .inr ⟨hnil, Text.cutAt_append hspace k.value⟩

theorem head_toText (hk : k.WellFormed) (m n : Nat) : head (k.toText m n) = k.headText m n := by
  obtain ⟨region, hdot, ⟨-, rfl, hspace⟩ | ⟨-, hspace⟩⟩ := cutAt_toText hk m n
  · simp only [head, hdot, hspace, trim_headText hk]
  · simp only [head, hdot, hspace, trim_headText hk]

theorem value_ofText_toText (hk : k.WellFormed) (m n : Nat) (index : Int) :
    (ofText (k.toText m n) index).value = k.value := by
  obtain ⟨region, hdot, ⟨hnil, rfl, hspace⟩ | ⟨hne, hspace⟩⟩ := cutAt_toText hk m n
  · simp only [ofText, hdot, hspace, hnil, readHead]
  · simp only [ofText, hdot, hspace, (hk.value.resolve_left hne).trim_eq]

/-- **Reading and writing**: what is read from a line is well formed, and a well-formed annotation
is read back from its text. Each mark `<` in the text lowers the index by one and each `>` raises
it. For this the counts have to fit, that is, the index of the line, the lowest number and the last
one are in range. -/
theorem ofText_toText :
    (∀ line index, (ofText line index).WellFormed) ∧
      ∀ k : KeywordLine, k.WellFormed → ∀ (m n : Nat) (index : Int),
        (Fits (k.toText m n) index ↔
          InRange index ∧ InRange (index - m) ∧ InRange (index - m + n)) ∧
        (Fits (k.toText m n) index →
          ofText (k.toText m n) index = { k with index := index - m + n }) := by
  refine ⟨wellFormed_ofText, fun k hk m n index => ⟨?_, fun _ => ?_⟩⟩
  · obtain ⟨houtdents, hindents, -⟩ := marks_headText hk m n
    rw [fits_iff, head_toText hk, houtdents, hindents]
  · rw [ofText_eq, head_toText hk, readHead_headText hk, value_ofText_toText hk]

/-- An annotation with dots in its keyword, two flags and a value that looks like marks. Its lowest
number is the least one in range. -/
theorem ofText_toText_marks :
    let k : KeywordLine :=
      { keyword := "emits.größe.".toList, flags := ["a".toList, "b2".toList]
        value := ".x<< `y`".toList }
    k.WellFormed ∧ k.toText 2 1 = ".emits.größe.<<>`a,b2` .x<< `y`".toList ∧
      Fits (k.toText 2 1) (-0x7FFFFFFE) ∧ ¬ Fits (k.toText 2 1) (-0x7FFFFFFF) ∧
      ofText (k.toText 2 1) (-0x7FFFFFFE) = { k with index := -0x7FFFFFFF } := by
  intro k
  have hkeyword : k.keyword.all isKeywordChar = true := by decide +kernel
  have hflags : ∀ f ∈ k.flags, f ≠ [] ∧ f.all isAlphanumeric = true := by decide +kernel
  have hk : k.WellFormed :=
    ⟨List.all_eq_true.mp hkeyword,
      fun f hf => ⟨(hflags f hf).1, List.all_eq_true.mp (hflags f hf).2⟩, Or.inr (by decide)⟩
  obtain ⟨hfits, hread⟩ := ofText_toText.2 k hk 2 1 (-0x7FFFFFFE)
  have hcounts : Fits (k.toText 2 1) (-0x7FFFFFFE) := hfits.mpr (by decide)
  refine ⟨hk, by decide, hcounts, fun h => ?_, hread hcounts⟩
  exact absurd ((ofText_toText.2 k hk 2 1 (-0x7FFFFFFF)).1.mp h) (by decide)

end KeywordLine

end Marginalia
