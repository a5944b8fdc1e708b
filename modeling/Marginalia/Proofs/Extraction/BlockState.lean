import Marginalia.Language
import Marginalia.Proofs.Extraction.Reading

/-!
# Inside and outside of a block

Of all that a role says, the next line asks only whether a block is open. This is a state with two
values, and `Vocabulary.blockAfter` moves it from line to line by the tokens of the line alone:

* a token *starts* or *ends* a text when it is not blank and stands there (`Starts`, `Ends`);
* what a line says stands past its inline token and the blanks behind it (`bare`);
* inside a block, the block is left at a line that ends in the close token. The open token is not
  looked for there;
* outside, a block is entered at a line that starts with the open token and does not end, past it,
  in the close token.

Neither the notation of a line nor a grammar moves the state (`Node.Reading.block_eq`,
`Grammars.role_apply`), so all lines of a file move it as these rules say (`blockState_feedAll`).
-/

namespace Marginalia

namespace Role

/-- What the role says about a block. -/
def block (r : Role) : Role := { r with inline := false }

/-- A line that opens a block neither began inside a block nor closes one. -/
def Exclusive (r : Role) : Prop :=
  r.blockOpen = true → r.blockLine = false ∧ r.blockClose = false

@[simp] theorem continuesBlock_block (r : Role) : r.block.continuesBlock = r.continuesBlock := rfl

theorem exclusive_block (r : Role) : r.block.Exclusive ↔ r.Exclusive := Iff.rfl

end Role

/-! ### Tokens of a line -/

namespace Vocabulary

variable {v : Vocabulary} {token text raw : Text} {previous : Role}

/-- The token is not blank, and the text starts with it. -/
def Starts (token text : Text) : Prop := Text.isBlank token = false ∧ token <+: text

/-- The token is not blank, and the text ends in it. -/
def Ends (token text : Text) : Prop := Text.isBlank token = false ∧ token <:+ text

instance (token text : Text) : Decidable (Starts token text) :=
  inferInstanceAs (Decidable (_ ∧ _))

instance (token text : Text) : Decidable (Ends token text) :=
  inferInstanceAs (Decidable (_ ∧ _))

/-- The text without a token that it starts with and the blanks behind that. -/
def past (token text : Text) : Text :=
  if Starts token text then Text.trimStart (text.drop token.length) else text

/-- The trimmed line without an inline token. -/
def bare (v : Vocabulary) (raw : Text) : Text := past v.inline (Text.trim raw)

theorem afterToken?_eq (token text : Text) :
    afterToken? token text = if Starts token text then some (past token text) else none := by
  by_cases hs : Starts token text
  · obtain ⟨hblank, rest, rfl⟩ := id hs
    have hprefix : token.isPrefixOf? (token ++ rest) = some rest := by
      rw [List.isPrefixOf?_eq_some_iff_append_eq]
    rw [if_pos hs, past, if_pos hs, List.drop_left, afterToken?, hblank,
      if_neg Bool.false_ne_true, hprefix, Option.map_some]
  · rw [if_neg hs, afterToken?]
    split_ifs with hblank
    · rfl
    · rw [Bool.not_eq_true] at hblank
      have hprefix : ¬ token <+: text := fun hp => hs ⟨hblank, hp⟩
      rw [Option.map_eq_none_iff, ← Option.not_isSome_iff_eq_none,
        List.isSome_isPrefixOf?_eq_isPrefixOf, List.isPrefixOf_iff_prefix]
      exact hprefix

theorem strip_afterToken? (token text : Text) :
    strip (afterToken? token text) text = (decide (Starts token text), past token text) := by
  rw [afterToken?_eq]
  by_cases hs : Starts token text
  · rw [if_pos hs, strip, decide_eq_true hs]
  · rw [if_neg hs, strip, decide_eq_false hs, past, if_neg hs]

theorem strip_beforeToken? (token text : Text) :
    (strip (beforeToken? token text) text).1 = decide (Ends token text) := by
  have hstrip : ∀ found : Option Text, (strip found text).1 = found.isSome := by
    intro found
    cases found <;> rfl
  rw [hstrip, beforeToken?, Bool.eq_iff_iff, decide_eq_true_iff, Ends]
  split_ifs with hblank
  · simp [hblank]
  · rw [Bool.not_eq_true] at hblank
    rw [Option.isSome_map, List.isSome_isSuffixOf?_eq_isSuffixOf, List.isSuffixOf_iff_suffix]
    exact ⟨fun h => ⟨hblank, h⟩, And.right⟩

/-! ### What a line says about a block -/

theorem block_classify_of_inside (hin : previous.continuesBlock = true) :
    (v.classify previous raw).role.block =
      { blockLine := true, blockClose := decide (Ends v.blockClose (v.bare raw)) } := by
  have hnone : strip none (v.bare raw) = (false, v.bare raw) := rfl
  simp only [classify, hin, if_true, strip_afterToken?, ← bare.eq_def, hnone, strip_beforeToken?,
    Bool.false_and, Bool.false_eq_true, if_false, Role.block]

theorem block_classify_of_outside (hout : previous.continuesBlock = false) :
    (v.classify previous raw).role.block =
      { blockOpen := decide (Starts v.blockOpen (v.bare raw)) &&
          !decide (Ends v.blockClose (past v.blockOpen (v.bare raw)))
        blockClose := decide (Ends v.blockClose (past v.blockOpen (v.bare raw))) &&
          !decide (Starts v.blockOpen (v.bare raw)) } := by
  simp only [classify, hout, Bool.false_eq_true, if_false, strip_afterToken?,
    strip_beforeToken?, ← bare.eq_def, Role.block]
  cases decide (Starts v.blockOpen (v.bare raw)) <;>
    cases decide (Ends v.blockClose (past v.blockOpen (v.bare raw))) <;> rfl

/-- Inside a block it does not matter what opens one. -/
theorem classify_of_inside (hin : previous.continuesBlock = true) (token : Text) :
    { v with blockOpen := token }.classify previous raw = v.classify previous raw := by
  simp only [classify, hin, if_true]

theorem exclusive_classify (v : Vocabulary) (previous : Role) (raw : Text) :
    (v.classify previous raw).role.Exclusive := by
  rw [← Role.exclusive_block]
  cases hin : previous.continuesBlock with
  | true =>
    rw [block_classify_of_inside hin]
    exact fun hopen => absurd hopen Bool.false_ne_true
  | false =>
    rw [block_classify_of_outside hin]
    intro hopen
    rw [Bool.and_eq_true] at hopen
    exact ⟨rfl, by rw [hopen.1, Bool.not_true, Bool.and_false]⟩

/-- Whether a block is open after a line, given whether one was open before it. -/
def blockAfter (v : Vocabulary) (inside : Bool) (raw : Text) : Bool :=
  if inside then !decide (Ends v.blockClose (v.bare raw))
  else decide (Starts v.blockOpen (v.bare raw)) &&
    !decide (Ends v.blockClose (past v.blockOpen (v.bare raw)))

theorem continuesBlock_classify (v : Vocabulary) (previous : Role) (raw : Text) :
    (v.classify previous raw).role.continuesBlock = v.blockAfter previous.continuesBlock raw := by
  rw [← Role.continuesBlock_block]
  cases hin : previous.continuesBlock with
  | true =>
    rw [block_classify_of_inside hin]
    rfl
  | false =>
    rw [block_classify_of_outside hin, Role.continuesBlock, Bool.false_and, Bool.or_false]
    rfl

end Vocabulary

/-! ### The state along a file -/

theorem Node.Reading.block_eq {l : CommentLine} {lineNumber : Nat} {n : Node}
    (h : Reading l lineNumber n) : n.role.block = l.role.block := by
  cases h <;> rfl

namespace Extractor

variable {x : Extractor} {s s' : Extract} {raw : Text}

theorem Step.block_eq (h : Step x s raw s') :
    s'.role.block = (x.vocabulary.classify s.role raw).role.block := by
  rw [h.role_eq, (x.reading_bareNode s raw).block_eq]

theorem Step.continuesBlock_eq (h : Step x s raw s') :
    s'.role.continuesBlock = x.vocabulary.blockAfter s.role.continuesBlock raw := by
  rw [← Role.continuesBlock_block, h.block_eq, Role.continuesBlock_block,
    Vocabulary.continuesBlock_classify]

theorem Step.exclusive (h : Step x s raw s') : s'.role.Exclusive := by
  rw [← Role.exclusive_block, h.block_eq, Role.exclusive_block]
  exact Vocabulary.exclusive_classify _ _ _

theorem exclusive_start (x : Extractor) (lines : List Text) :
    (x.feedAll {} lines).role.Exclusive :=
  invariant_feedAll (P := fun s => s.role.Exclusive) (fun hstep _ _ => hstep.exclusive)
    Tree.Grown.empty (fun hopen => absurd hopen Bool.false_ne_true) lines

theorem continuesBlock_feedAll (x : Extractor) (s : Extract) (lines : List Text) :
    (x.feedAll s lines).role.continuesBlock =
      lines.foldl x.vocabulary.blockAfter s.role.continuesBlock := by
  induction lines generalizing s with
  | nil => rfl
  | cons raw lines ih =>
    rw [feedAll_cons, ih, (step_feed x s raw).continuesBlock_eq, List.foldl_cons]

/-- **Blocks**: whether a block is open is a state with two values. A line says that it began inside
a block exactly when one was open before it, and it never opens one together with that or with
closing one. Inside, a block is left exactly at a line that, past an inline token, ends in the close
token, and the open token is not looked for. Outside, one is entered exactly at a line that, past an
inline token, starts with the open token and does not end, past that, in the close token. Neither
the notation nor a grammar changes what a role says about a block. -/
theorem blockState_feedAll (task : Task) (grammars : Grammars) (extension : Text)
    (before : List Text) (raw : Text) :
    let x := ofTask task grammars extension
    let v := task.vocabulary
    let s := x.feedAll {} before
    let s' := x.feed s raw
    let inside := s.role.continuesBlock
    let text := v.bare raw
    s.role.Exclusive ∧
      (s'.role.blockLine = true ↔ inside = true) ∧
      (inside = true →
        (s'.role.continuesBlock = false ↔ Vocabulary.Ends v.blockClose text) ∧
          s'.role.blockOpen = false ∧
          ∀ token, { v with blockOpen := token }.classify s.role raw = v.classify s.role raw) ∧
      (inside = false →
        (s'.role.continuesBlock = true ↔ Vocabulary.Starts v.blockOpen text ∧
          ¬ Vocabulary.Ends v.blockClose (Vocabulary.past v.blockOpen text))) ∧
      inside = before.foldl v.blockAfter false ∧
      (∀ l lineNumber, (Node.ofLine l lineNumber).role.block = l.role.block) ∧
      ∀ n, (grammars.apply extension n).role = n.role := by
  intro x v s s' inside text
  have hstep : Step x s raw s' := step_feed x s raw
  have hafter : s'.role.continuesBlock = v.blockAfter inside raw := hstep.continuesBlock_eq
  have hline : s'.role.blockLine = inside := congrArg Role.blockLine hstep.block_eq
  have hexclusive : s.role.Exclusive := exclusive_start x before
  refine ⟨hexclusive, by rw [hline], fun hin => ⟨?_, ?_, Vocabulary.classify_of_inside hin⟩,
    fun hout => ?_, continuesBlock_feedAll x {} before,
    fun l lineNumber => (Node.reading_ofLine l lineNumber).block_eq,
    fun n => grammars.role_apply extension n⟩
  · rw [hafter, hin, Vocabulary.blockAfter, if_pos rfl, Bool.not_eq_false', decide_eq_true_iff]
  · -- a line inside a block is no opening line
    by_contra hopen
    rw [Bool.not_eq_false] at hopen
    have := (hstep.exclusive hopen).1
    rw [hline, hin] at this
    cases this
  · rw [hafter, hout, Vocabulary.blockAfter, if_neg Bool.false_ne_true, Bool.and_eq_true,
      Bool.not_eq_true', decide_eq_true_iff, decide_eq_false_iff_not]

/-- Where one token opens and closes, a block is left at a line with the token behind an inline one,
and none is entered at a line with the token at both ends. -/
theorem blockState_feedAll_quotes :
    let x := ofTask { vocabulary := Language.python.vocabulary } [] []
    let s := x.feedAll {} ["\"\"\" .doc".toList]
    s.role.continuesBlock = true ∧
      (x.feed s "# \"\"\"".toList).role.continuesBlock = false ∧
      ¬ (x.feed {} "\"\"\" .a \"\"\"".toList).role.continuesBlock = true := by
  intro x s
  have hin : s.role.continuesBlock = true := by decide +kernel
  have hleave := blockState_feedAll { vocabulary := Language.python.vocabulary } [] []
    ["\"\"\" .doc".toList] "# \"\"\"".toList
  have henter := blockState_feedAll { vocabulary := Language.python.vocabulary } [] [] []
    "\"\"\" .a \"\"\"".toList
  refine ⟨hin, (hleave.2.2.1 hin).1.mpr (by decide +kernel), fun hopen => ?_⟩
  have hends := ((henter.2.2.2.1 rfl).mp hopen).2
  exact hends (by decide +kernel)

end Extractor

end Marginalia
