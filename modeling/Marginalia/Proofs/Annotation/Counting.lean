import Marginalia.Annotation

/-!
# Counting marks in 32 bits

An index is kept in 32 bits, and the marks of an annotation are counted one by one: from the index
of the line one down for each `<` and then one up for each `>`. `KeywordLine.readHead` counts
without a bound, and the index that it gives is the one meant as long as every number on the way is
in range (`KeywordLine.Fits`).

The numbers go down and up again, so only three of them matter: the index of the line, the lowest
number and the last one (`KeywordLine.fits_iff`).
-/

namespace Marginalia

/-- What an index can be: a number of 32 bits with a sign. -/
def InRange (i : Int) : Prop := -0x80000000 ≤ i ∧ i < 0x80000000

instance : DecidablePred InRange := fun _ => inferInstanceAs (Decidable (_ ∧ _))

theorem InRange.of_le {i j k : Int} (hi : InRange i) (hk : InRange k) (hij : i ≤ j) (hjk : j ≤ k) :
    InRange j :=
  ⟨Int.le_trans hi.1 hij, Int.lt_of_le_of_lt hjk hk.2⟩

namespace KeywordLine

variable {line : Text} {index : Int}

/-- What keyword and marks are read from: the text between the first dot of a line and the space
behind it. -/
def head (line : Text) : Text :=
  match Text.cutAt '.' line with
  | none => []
  | some (_, region) =>
    match Text.cutAt ' ' region with
    | none => Text.trim region
    | some (head, _) => Text.trim head

/-- How many marks `<` stand behind the keyword. -/
def outdents (head : Text) : Nat := ((head.dropWhile isKeywordChar).takeWhile (· == '<')).length

/-- How many marks `>` stand behind these. -/
def indents (head : Text) : Nat :=
  (((head.dropWhile isKeywordChar).dropWhile (· == '<')).takeWhile (· == '>')).length

/-- No number leaves its range while the marks on a line are counted, first down, then up. -/
structure Fits (line : Text) (index : Int) : Prop where
  /-- The numbers down to the lowest one. -/
  lowered : ∀ j ≤ outdents (head line), InRange (index - j)
  /-- The numbers up again to the last one. -/
  raised : ∀ j ≤ indents (head line), InRange (index - outdents (head line) + j)

instance (line : Text) (index : Int) : Decidable (Fits line index) :=
  decidable_of_iff ((∀ j ≤ outdents (head line), InRange (index - j)) ∧
      ∀ j ≤ indents (head line), InRange (index - outdents (head line) + j))
    ⟨fun h => ⟨h.1, h.2⟩, fun h => ⟨h.lowered, h.raised⟩⟩

theorem index_readHead (head : Text) (index : Int) :
    (readHead head index).index = index - outdents head + indents head := rfl

/-- Keyword, flags and index are read from the head of a line. -/
theorem ofText_eq (line : Text) (index : Int) :
    ofText line index = { readHead (head line) index with value := (ofText line index).value } := by
  unfold ofText head
  cases Text.cutAt '.' line with
  | none => simp [readHead, readFlags]
  | some cut =>
    dsimp only
    cases Text.cutAt ' ' cut.2 <;> rfl

theorem index_ofText (line : Text) (index : Int) :
    (ofText line index).index = index - outdents (head line) + indents (head line) := by
  rw [ofText_eq]
  exact index_readHead (head line) index

/-- The first, the lowest and the last of the numbers tell whether all of them are in range. -/
theorem fits_iff : Fits line index ↔
    InRange index ∧ InRange (index - outdents (head line)) ∧
      InRange (index - outdents (head line) + indents (head line)) := by
  constructor
  · intro h
    have hfirst := h.lowered 0 (Nat.zero_le _)
    rw [Int.natCast_zero, Int.sub_zero] at hfirst
    exact ⟨hfirst, h.lowered _ (Nat.le_refl _), h.raised _ (Nat.le_refl _)⟩
  · rintro ⟨hfirst, hlowest, hlast⟩
    exact ⟨fun j hj => hlowest.of_le hfirst (by omega) (by omega),
      fun j hj => hlowest.of_le hlast (by omega) (by omega)⟩

/-- What is read last is in range. -/
theorem Fits.inRange (h : Fits line index) : InRange (ofText line index).index := by
  rw [index_ofText]
  exact h.raised _ (Nat.le_refl _)

end KeywordLine

end Marginalia
