import Marginalia.Grammar.Template
import Marginalia.Proofs.Text.Trim

/-!
# Filling templates

A template is put together from pieces (`Piece`): literal text without an opening brace, and
placeholders, which are words between double braces with blanks around them (`Placeholder`). A
placeholder is read off the template whole, whatever follows it (`placeholder?_append`), and a
literal is passed over character by character (`render_append_of_not_mem`).

Filling a template is filling its pieces one by one (`render_flatMap`), so what has been put in for
one placeholder is not looked at again.
-/

namespace Marginalia

theorem isBlank_eq_false_of_isWordChar {c : Char} (h : isWordChar c = true) : isBlank c = false :=
  isBlank_eq_false_of (by decide +kernel) h

theorem isWordChar_eq_false_of_isBlank {c : Char} (h : isBlank c = true) :
    isWordChar c = false := by
  by_contra hword
  rw [Bool.not_eq_false] at hword
  rw [isBlank_eq_false_of_isWordChar hword] at h
  cases h

namespace Grammar

variable {captures : Captures} {t rest : Text}

/-! ### Pieces -/

/-- A word between double braces, with blanks around it. -/
structure Placeholder where
  /-- The blanks before the word. -/
  before : Text
  /-- The word. -/
  word : Text
  /-- The blanks after the word. -/
  after : Text
  isBlank_before : Text.isBlank before = true
  word_ne_nil : word ≠ []
  isWordChar_of_mem : ∀ c ∈ word, isWordChar c = true
  isBlank_after : Text.isBlank after = true

/-- The placeholder as it stands in a template. -/
def Placeholder.text (p : Placeholder) : Text :=
  '{' :: '{' :: (p.before ++ (p.word ++ (p.after ++ ['}', '}'])))

/-- A piece of a template: literal text without an opening brace, or a placeholder. -/
inductive Piece where
  | literal (t : Text) (h : '{' ∉ t)
  | placeholder (p : Placeholder)

namespace Piece

/-- The piece as it stands in a template. -/
def text : Piece → Text
  | literal t _ => t
  | placeholder p => p.text

/-- What the piece becomes: a literal stays, a placeholder gives the text captured under its word,
or nothing where no text was. -/
def filled (captures : Captures) : Piece → Text
  | literal t _ => t
  | placeholder p => (captures.text? p.word).getD []

end Piece

/-! ### Reading a placeholder -/

/-- A word ends where blanks follow, or a character that is no word character. -/
theorem isWordChar_head?_append {pad : Text} {c : Char} (hpad : Text.isBlank pad = true)
    (hc : isWordChar c = false) (t : Text) : ∀ d ∈ (pad ++ c :: t).head?, isWordChar d = false := by
  intro d hd
  cases pad with
  | nil =>
    obtain rfl := Option.some.inj hd
    exact hc
  | cons b pad =>
    obtain rfl := Option.some.inj hd
    exact isWordChar_eq_false_of_isBlank (List.all_eq_true.mp hpad b List.mem_cons_self)

theorem Placeholder.placeholder?_append (p : Placeholder) (rest : Text) :
    placeholder? (p.text ++ rest) = some (p.word, rest) := by
  have hbrace : isBlank '}' = false ∧ isWordChar '}' = false := by decide +kernel
  have htext : p.text ++ rest =
      '{' :: '{' :: (p.before ++ (p.word ++ (p.after ++ '}' :: '}' :: rest))) := by
    simp [Placeholder.text]
  -- the blanks before the word end at its first character
  obtain ⟨c, w, hw⟩ := List.exists_cons_of_ne_nil p.word_ne_nil
  have hc : isBlank c = false :=
    isBlank_eq_false_of_isWordChar (p.isWordChar_of_mem c (hw ▸ List.mem_cons_self))
  have hinner := Text.trimStart_append_cons p.isBlank_before hc
    (w ++ (p.after ++ '}' :: '}' :: rest))
  rw [← List.cons_append, ← hw] at hinner
  obtain ⟨htake, hdrop⟩ := Text.span_append p.isWordChar_of_mem
    (isWordChar_head?_append p.isBlank_after hbrace.2 ('}' :: rest))
  have hclose := Text.trimStart_append_cons p.isBlank_after hbrace.1 ('}' :: rest)
  rw [htext, placeholder?]
  simp only [hinner, htake, hdrop, hclose]
  rw [if_neg (by simp [p.word_ne_nil])]

/-- A placeholder starts with an opening brace. -/
theorem placeholder?_eq_none {c : Char} (h : c ≠ '{') (t : Text) :
    placeholder? (c :: t) = none := by
  unfold placeholder?
  split
  · rename_i heq
    exact absurd (List.cons.inj heq).1 h
  · rfl

/-! ### Filling -/

@[simp] theorem render_nil : render captures [] = [] := by rw [render]

theorem render_of_none {c : Char} (h : placeholder? (c :: t) = none) :
    render captures (c :: t) = c :: render captures t := by
  rw [render]
  split <;> simp_all

theorem render_of_some {word : Text} (h : placeholder? t = some (word, rest)) :
    render captures t = (captures.text? word).getD [] ++ render captures rest := by
  cases t with
  | nil => cases h
  | cons c t =>
    rw [render]
    split <;> simp_all

theorem render_append_of_not_mem (h : '{' ∉ t) (rest : Text) :
    render captures (t ++ rest) = t ++ render captures rest := by
  induction t with
  | nil => rfl
  | cons c t ih =>
    rw [List.mem_cons, not_or] at h
    rw [List.cons_append, render_of_none (placeholder?_eq_none (Ne.symm h.1) _), ih h.2,
      List.cons_append]

/-- What a piece becomes does not depend on what follows it. -/
theorem render_piece_append (p : Piece) (rest : Text) :
    render captures (p.text ++ rest) = p.filled captures ++ render captures rest := by
  cases p with
  | literal t h => exact render_append_of_not_mem h rest
  | placeholder p => exact render_of_some (p.placeholder?_append rest)

/-- **Filling a template** that is put together from pieces fills the pieces one by one: literals
stay as they are, a placeholder becomes the text captured under its word, and what was captured
goes in as it is, with any braces in it. -/
theorem render_flatMap (captures : Captures) (pieces : List Piece) :
    render captures (pieces.flatMap Piece.text) = pieces.flatMap (Piece.filled captures) := by
  induction pieces with
  | nil => exact render_nil
  | cons p pieces ih =>
    rw [List.flatMap_cons, render_piece_append, ih, List.flatMap_cons]

/-- The text captured under `a` looks like a placeholder, there are braces that belong to none, and
nothing was captured under `c`. -/
theorem render_flatMap_braces_captured :
    let captures : Captures := { named := [("a".toList, "{{b}}".toList), ("b".toList, "x".toList)] }
    let a : Placeholder :=
      ⟨[' '], ['a'], [' ', ' '], rfl, List.cons_ne_nil _ _, List.forall_mem_singleton.mpr rfl, rfl⟩
    let b : Placeholder :=
      ⟨[], ['b'], [], rfl, List.cons_ne_nil _ _, List.forall_mem_singleton.mpr rfl, rfl⟩
    let c : Placeholder :=
      ⟨[], ['c'], [' '], rfl, List.cons_ne_nil _ _, List.forall_mem_singleton.mpr rfl, rfl⟩
    let pieces : List Piece :=
      [.placeholder a, .placeholder b, .literal r"}} ".toList (by decide), .placeholder c,
        .literal ['.'] (by decide)]
    pieces.flatMap Piece.text = r"{{ a  }}{{b}}}} {{c }}.".toList ∧
      render captures (pieces.flatMap Piece.text) = r"{{b}}x}} .".toList := by
  intro captures a b c pieces
  exact ⟨by decide +kernel, (render_flatMap captures pieces).trans (by decide +kernel)⟩

end Grammar

end Marginalia
