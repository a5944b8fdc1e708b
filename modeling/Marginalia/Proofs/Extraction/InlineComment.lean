import Marginalia.Proofs.Extraction.BlockState

/-!
# Inline comments

A line that starts with the inline token is a comment of its own (`Vocabulary.inline_classify`). But
its text is searched for the open token like that of any other line, so outside a block it opens one
if the open token stands right behind the inline one and the line does not end in the close token
(`continuesBlock_feed_inline`). The lines that follow are then lines of the block, code or not, as
long as none ends in the close token (`foldl_blockAfter_of_open`).
-/

namespace Marginalia

namespace Vocabulary

variable {v : Vocabulary} {raw : Text} {lines : List Text}

theorem bare_of_starts (h : Starts v.inline (Text.trim raw)) :
    v.bare raw = Text.trimStart ((Text.trim raw).drop v.inline.length) := by
  rw [bare, past, if_pos h]

/-- A line with the inline token is a comment of its own, whatever else is on it. -/
theorem inline_classify (h : Starts v.inline (Text.trim raw)) (previous : Role) :
    (v.classify previous raw).role.inline = true := by
  simp only [classify, strip_afterToken?, decide_eq_true h]
  split_ifs <;> rfl

/-- A block stays open as long as no line ends in the close token. -/
theorem foldl_blockAfter_of_open (h : ∀ l ∈ lines, ¬ Ends v.blockClose (v.bare l)) :
    lines.foldl v.blockAfter true = true := by
  induction lines with
  | nil => rfl
  | cons l lines ih =>
    rw [List.forall_mem_cons] at h
    have hopen : v.blockAfter true l = true := by
      rw [blockAfter, if_pos rfl, decide_eq_false h.1, Bool.not_false]
    rw [List.foldl_cons, hopen, ih h.2]

end Vocabulary

namespace Extractor

variable {x : Extractor} {s s' : Extract} {raw : Text}

theorem Step.blockLine_eq (h : Step x s raw s') :
    s'.role.blockLine = s.role.continuesBlock :=
  congrArg Role.blockLine h.block_eq

/-- **Inline comments** outside a block: a line that starts with the inline token has the role of an
inline comment. It opens a block, in its own role and in the one carried on, exactly when the text
behind the token starts with the open token and does not end, past that, in the close token; and
then every line up to one that ends in the close token is a line of the block. -/
theorem continuesBlock_feed_inline (x : Extractor) (s : Extract) (raw : Text)
    (hout : s.role.continuesBlock = false)
    (hinline : Vocabulary.Starts x.vocabulary.inline (Text.trim raw)) :
    let v := x.vocabulary
    let behind := Text.trimStart ((Text.trim raw).drop v.inline.length)
    let opens := Vocabulary.Starts v.blockOpen behind ∧
      ¬ Vocabulary.Ends v.blockClose (Vocabulary.past v.blockOpen behind)
    (v.classify s.role raw).role.inline = true ∧
      ((v.classify s.role raw).role.continuesBlock = true ↔ opens) ∧
      ((x.feed s raw).role.continuesBlock = true ↔ opens) ∧
      (opens → ∀ (lines : List Text) (code : Text),
        (∀ l ∈ lines, ¬ Vocabulary.Ends v.blockClose (v.bare l)) →
          (x.feed (x.feedAll (x.feed s raw) lines) code).role.blockLine = true) := by
  intro v behind opens
  have hafter : v.blockAfter s.role.continuesBlock raw = true ↔ opens := by
    rw [hout, Vocabulary.blockAfter, if_neg Bool.false_ne_true, Bool.and_eq_true,
      Bool.not_eq_true', decide_eq_true_iff, decide_eq_false_iff_not,
      Vocabulary.bare_of_starts hinline]
  have hstep : (x.feed s raw).role.continuesBlock = v.blockAfter s.role.continuesBlock raw :=
    (step_feed x s raw).continuesBlock_eq
  refine ⟨Vocabulary.inline_classify hinline _, ?_, ?_, fun hopens lines code hlines => ?_⟩
  · rw [Vocabulary.continuesBlock_classify, hafter]
  · rw [hstep, hafter]
  · rw [(step_feed x _ code).blockLine_eq, continuesBlock_feedAll, hstep, hafter.mpr hopens]
    exact Vocabulary.foldl_blockAfter_of_open hlines

/-- The open token stands behind the inline one, and code that follows is part of the block; with a
word between the two tokens no block is opened. -/
theorem continuesBlock_feed_inline_before_code :
    let x : Extractor := { vocabulary := Language.cFamily.vocabulary }
    (x.feed (x.feedAll (x.feed {} "  // /* .a".toList) ["f(); /* g */ ;".toList])
        "h();".toList).role.blockLine = true ∧
      ¬ (x.feed {} "// see /*".toList).role.continuesBlock = true := by
  intro x
  have hopen := continuesBlock_feed_inline x {} "  // /* .a".toList rfl (by decide +kernel)
  have hclosed := continuesBlock_feed_inline x {} "// see /*".toList rfl (by decide +kernel)
  refine ⟨hopen.2.2.2 ?_ ["f(); /* g */ ;".toList] "h();".toList ?_, fun h => ?_⟩
  · decide +kernel
  · decide +kernel
  · exact absurd (hclosed.2.2.1.mp h) (by decide +kernel)

/-- A comment that runs to the end of its line opens a block, although the inline token does not
start with the open token. -/
theorem exists_inlineComment_opening_block :
    ¬ ∀ (x : Extractor) (s : Extract) (raw : Text), s.role.continuesBlock = false →
      Vocabulary.Starts x.vocabulary.inline (Text.trim raw) →
      ¬ x.vocabulary.blockOpen <+: x.vocabulary.inline →
        (x.vocabulary.classify s.role raw).role.continuesBlock = false ∧
          (x.feed s raw).role.continuesBlock = false := by
  intro h
  have hclosed := h { vocabulary := Language.cFamily.vocabulary } {} "// /* note".toList rfl
    (by decide +kernel) (by decide +kernel)
  revert hclosed
  decide +kernel

end Extractor

end Marginalia
