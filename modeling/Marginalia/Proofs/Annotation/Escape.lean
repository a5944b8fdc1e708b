import Marginalia.Proofs.Annotation.Counting
import Mathlib.Data.List.Infix

/-!
# Escaped lines

A backslash in front makes a line literal: its text, as it is, becomes the value of a node one level
deeper. But the backslash is only asked for after two other things. An escaped line is read like any
other first, and what it says behind the backslash may be an annotation about the file or a
separator; then it is that. And the marks on its keyword change its index and give it flags,
although the keyword itself is dropped.

`ofLine_escaped` says which of these an escaped line is, and exactly when it is the literal line
that one would expect, as long as its index stays in range (`Counted`).
-/

namespace Marginalia

/-- The backslash plays no part when the annotation behind it is read. -/
theorem KeywordLine.ofText_escaped (t : Text) (index : Int) :
    ofText ('\\' :: t) index = ofText t index := by
  have hdrop : ('\\' :: t).dropWhile (· != '.') = t.dropWhile (· != '.') :=
    List.dropWhile_cons_of_pos (by decide)
  unfold ofText Text.cutAt
  rw [hdrop]
  cases t.dropWhile (· != '.') with
  | nil => rfl
  | cons c region => rfl

namespace Node

variable {role : Role} {indent : Int} {t : Text}

/-- A text as the value of a node of its own, one level below its line. -/
def literal (role : Role) (indent : Int) (t : Text) (lineNumber : Nat) : Node :=
  { line := lineNumber, index := indent + 1, value := t, role }

/-- What an annotation about the file begins with. -/
def NamesFile (k : KeywordLine) : Prop := k.index = 0 ∧ configurationMark <+: k.keyword

/-- What a separator begins with. -/
def Separates (k : KeywordLine) : Prop := ['.'] <+: k.keyword

instance (k : KeywordLine) : Decidable (NamesFile k) := inferInstanceAs (Decidable (_ ∧ _))

instance (k : KeywordLine) : Decidable (Separates k) := inferInstanceAs (Decidable (_ <+: _))

/-- The index of an escaped line stays in range: while the marks are counted, and one below where
the line is neither about the file nor a separator. -/
structure Counted (t : Text) (indent : Int) : Prop where
  /-- The marks behind the backslash. -/
  marks : KeywordLine.Fits ('\\' :: t) indent
  /-- The level below. -/
  below : ¬ NamesFile (KeywordLine.ofText t indent) → ¬ Separates (KeywordLine.ofText t indent) →
    InRange ((KeywordLine.ofText t indent).index + 1)

theorem Counted.inRange {t : Text} {indent : Int} (h : Counted t indent) :
    InRange (KeywordLine.ofText t indent).index :=
  KeywordLine.ofText_escaped t indent ▸ h.marks.inRange

/-- An annotation about the file is no separator. -/
theorem not_separates_of_namesFile {k : KeywordLine} (h : NamesFile k) : ¬ Separates k := by
  rintro ⟨rest, hdot⟩
  obtain ⟨-, rest', hmark⟩ := h
  rw [← hdot] at hmark
  exact absurd (List.cons.inj hmark).1 (by decide)

/-- The test for an annotation about the file fails where there is none. -/
theorem mark_eq_false {k : KeywordLine} (h : ¬ NamesFile k) :
    (k.index == 0 && configurationMark.isPrefixOf k.keyword) = false := by
  rw [← Bool.not_eq_true, Bool.and_eq_true, beq_iff_eq, List.isPrefixOf_iff_prefix]
  exact h

section Escaped

variable (hc : role.isComment = true) (lineNumber : Nat)
include hc

theorem ofLine_of_namesFile (h : NamesFile (KeywordLine.ofText t indent)) :
    let n := ofLine { role, indent, text := '\\' :: t } lineNumber
    n.index = (KeywordLine.ofText t indent).index ∧ n.configuration = true ∧
      n.separator = false ∧ n.appending = false ∧ n.collapsing = false := by
  have hindex : ((KeywordLine.ofText t indent).index == 0) = true := beq_iff_eq.mpr h.1
  have hmark : configurationMark.isPrefixOf (KeywordLine.ofText t indent).keyword = true :=
    List.isPrefixOf_iff_prefix.mpr h.2
  simp only [ofLine, KeywordLine.ofText_escaped, hc, hindex, hmark, Bool.not_true, Bool.and_self,
    Bool.false_eq_true, if_false, if_true, and_self]

theorem ofLine_of_separates (h : Separates (KeywordLine.ofText t indent)) :
    let n := ofLine { role, indent, text := '\\' :: t } lineNumber
    n.index = (KeywordLine.ofText t indent).index ∧ n.configuration = false ∧
      n.separator = true ∧ n.appending = false ∧ n.collapsing = false := by
  have hmark := mark_eq_false fun hf => not_separates_of_namesFile hf h
  obtain ⟨rest, hk⟩ := h
  rw [List.singleton_append] at hk
  rw [← hk] at hmark
  simp only [ofLine, KeywordLine.ofText_escaped, hc, ← hk, hmark, Bool.not_true,
    Bool.false_eq_true, if_false, and_self]

/-- Only the marks on its keyword are left of what an escaped line says as an annotation. -/
theorem ofLine_of_neither (hf : ¬ NamesFile (KeywordLine.ofText t indent))
    (hs : ¬ Separates (KeywordLine.ofText t indent)) :
    ofLine { role, indent, text := '\\' :: t } lineNumber =
      { literal role (KeywordLine.ofText t indent).index t lineNumber with
        flags := (KeywordLine.ofText t indent).flags } := by
  simp only [ofLine, KeywordLine.ofText_escaped, hc, mark_eq_false hf, Bool.not_true,
    Bool.false_eq_true, if_false]
  split
  · rename_i rest hk
    exact absurd ⟨rest, hk.symm⟩ hs
  · rfl

end Escaped

/-- **Escaped lines**: behind the backslash of a comment line an annotation about the file or a
separator is still one. Every other text is the value of its node, character by character, and
nothing but the marks of an annotation has an effect: they give the node its flags and change its
index. So a line is literal, without keyword and flags and one level below its indentation, exactly
when it is neither of the two and there are no flags and no marks that change the index. All this is
said of lines whose index stays in range, and then the index of the node is in range. -/
theorem ofLine_escaped (role : Role) (hc : role.isComment = true) (indent : Int) (t : Text)
    (hcounted : Counted t indent) (lineNumber : Nat) :
    let n := ofLine { role, indent, text := '\\' :: t } lineNumber
    let k := KeywordLine.ofText t indent
    InRange n.index ∧
      (n = literal role indent t lineNumber ↔
        ¬ NamesFile k ∧ ¬ Separates k ∧ k.index = indent ∧ k.flags = []) ∧
      (¬ NamesFile k → ¬ Separates k →
        n = { literal role k.index t lineNumber with flags := k.flags }) ∧
      (n.configuration = true ↔ NamesFile k) ∧ (n.separator = true ↔ Separates k) ∧
      n.appending = false ∧ n.collapsing = false := by
  intro n k
  by_cases hf : NamesFile k
  · obtain ⟨hindex, hconfiguration, hseparator, happending, hcollapsing⟩ :=
      ofLine_of_namesFile hc lineNumber hf
    refine ⟨hindex ▸ hcounted.inRange, ⟨fun hn => ?_, fun h => absurd hf h.1⟩,
      fun h => absurd hf h, iff_of_true hconfiguration hf, ?_, happending, hcollapsing⟩
    · rw [show ofLine _ _ = _ from hn] at hconfiguration
      cases hconfiguration
    · exact iff_of_false (Bool.eq_false_iff.mp hseparator) (not_separates_of_namesFile hf)
  by_cases hs : Separates k
  · obtain ⟨hindex, hconfiguration, hseparator, happending, hcollapsing⟩ :=
      ofLine_of_separates hc lineNumber hs
    refine ⟨hindex ▸ hcounted.inRange, ⟨fun hn => ?_, fun h => absurd hs h.2.1⟩,
      fun _ h => absurd hs h, ?_, iff_of_true hseparator hs, happending, hcollapsing⟩
    · rw [show ofLine _ _ = _ from hn] at hseparator
      cases hseparator
    · exact iff_of_false (Bool.eq_false_iff.mp hconfiguration) hf
  · have hn : n = { literal role k.index t lineNumber with flags := k.flags } :=
      ofLine_of_neither hc lineNumber hf hs
    refine ⟨?_, ?_, fun _ _ => hn, ?_, ?_, ?_, ?_⟩
    · rw [hn]
      exact hcounted.below hf hs
    · rw [hn, literal, literal, Node.mk.injEq]
      simp only [hf, hs, not_false_eq_true, true_and, and_true, Int.add_left_inj]
    · simp [hn, literal, hf]
    · simp [hn, literal, hs]
    · rw [hn]; rfl
    · rw [hn]; rfl

/-- Dots, marks and the sign of collected lines in a literal text: the keyword `a` is dropped, and
of its marks one `>` is left to count. -/
theorem ofLine_escaped_marks :
    let k := KeywordLine.ofText "see .a<>>`x` ...:: emits.".toList 2
    ({ inline := true } : Role).isComment = true ∧
      Counted "see .a<>>`x` ...:: emits.".toList 2 ∧ ¬ NamesFile k ∧ ¬ Separates k ∧
      ofLine { role := { inline := true }, indent := 2
               text := '\\' :: "see .a<>>`x` ...:: emits.".toList } 1 =
        { line := 1, index := 4, value := "see .a<>>`x` ...:: emits.".toList
          flags := ["x".toList], role := { inline := true } } := by
  intro k
  have hf : ¬ NamesFile k := by decide +kernel
  have hs : ¬ Separates k := by decide +kernel
  have hk : k.index = 3 ∧ k.flags = ["x".toList] := by decide +kernel
  have hcounted : Counted "see .a<>>`x` ...:: emits.".toList 2 :=
    ⟨by decide +kernel, fun _ _ => by decide +kernel⟩
  have hn := (ofLine_escaped { inline := true } rfl 2 _ hcounted 1).2.2.1 hf hs
  refine ⟨rfl, hcounted, hf, hs, hn.trans ?_⟩
  rw [literal, hk.1, hk.2]
  rfl

/-- Escaped lines that are not literal: one about the file, a separator, one with another index, and
one with flags. -/
theorem ofLine_escaped_ne_literal :
    let role : Role := { inline := true }
    let node := fun t : Text => ofLine { role, indent := 0, text := '\\' :: t } 1
    node ".emits.version 2".toList =
        { line := 1, keyword := "version".toList, value := ['2'], configuration := true, role } ∧
      node "..group".toList = { line := 1, keyword := "group".toList, separator := true, role } ∧
      node ".a<< x".toList = { line := 1, index := -1, value := ".a<< x".toList, role } ∧
      node ".a`x,y` v".toList =
        { line := 1, index := 1, value := ".a`x,y` v".toList, flags := [['x'], ['y']], role } ∧
      ∀ t ∈ [".emits.version 2".toList, "..group".toList, ".a<< x".toList, ".a`x,y` v".toList],
        node t ≠ literal role 0 t 1 := by
  decide +kernel

end Node

end Marginalia
