import Marginalia.Pattern
import Marginalia.Text.Word

/-!
# Templates

A template is a text with placeholders: a word between double braces, blanks around the word
allowed. `render` puts the captured texts in place of the placeholders in one pass from left to
right; what is put in is not looked at again.
-/

namespace Marginalia.Grammar

/-- The word of a placeholder at the start of the text, and the text after the placeholder. -/
def placeholder? (t : Text) : Option (Text × Text) :=
  match t with
  | '{' :: '{' :: inner =>
    let body := Text.trimStart inner
    let word := body.takeWhile isWordChar
    match Text.trimStart (body.dropWhile isWordChar) with
    | '}' :: '}' :: rest => if word.isEmpty then none else some (word, rest)
    | _ => none
  | _ => none

theorem length_trimStart_le (t : Text) : (Text.trimStart t).length ≤ t.length :=
  (List.dropWhile_sublist _).length_le

theorem length_dropWhile_le (p : Char → Bool) (t : Text) : (t.dropWhile p).length ≤ t.length :=
  (List.dropWhile_sublist _).length_le

/-- A placeholder is not empty. -/
theorem length_lt_of_placeholder? {t word rest : Text} (h : placeholder? t = some (word, rest)) :
    rest.length < t.length := by
  unfold placeholder? at h
  split at h
  · rename_i inner
    dsimp only at h
    split at h
    · rename_i rest' he
      split at h
      · cases h
      · obtain ⟨-, rfl⟩ := Prod.mk.inj (Option.some.inj h)
        have h₁ := length_trimStart_le ((Text.trimStart inner).dropWhile isWordChar)
        have h₂ := length_dropWhile_le isWordChar (Text.trimStart inner)
        have h₃ := length_trimStart_le inner
        rw [he] at h₁
        simp only [List.length_cons] at h₁ ⊢
        omega
    · cases h
  · cases h

/-- The template with the captured texts in place of its placeholders. A placeholder whose word
names no captured text becomes empty. -/
def render (captures : Captures) (template : Text) : Text :=
  match template with
  | [] => []
  | c :: t =>
    match _h : placeholder? (c :: t) with
    | some (word, rest) => (captures.text? word).getD [] ++ render captures rest
    | none => c :: render captures t
termination_by template.length
decreasing_by
  · exact length_lt_of_placeholder? _h
  · simp

end Marginalia.Grammar
