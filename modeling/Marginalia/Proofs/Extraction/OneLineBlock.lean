import Marginalia.Proofs.Extraction.BlockState

/-!
# Blocks on one line

A text can be written behind the inline token (`Vocabulary.inlineComment`), or between the tokens
that open and close a block (`Vocabulary.oneLineBlock`). Outside a block both are the same line of
comment: of its own, with the text and without any token (`classify_inlineComment`,
`classify_oneLineBlock`).

Of a comment nothing is read but what the line was classified as (`feed_congr`), so it does not
matter which of the two is written (`feed_oneLineBlock`).
-/

namespace Marginalia

namespace Vocabulary

variable {v : Vocabulary} {token rest text pad t : Text} {previous : Role}

/-! ### Tokens at the ends -/

theorem afterToken?_append (h : token.Firm) (rest : Text) :
    afterToken? token (token ++ rest) = some (Text.trimStart rest) := by
  have hstarts : Starts token (token ++ rest) := ⟨h.isBlank_append [], List.prefix_append _ _⟩
  rw [afterToken?_eq, if_pos hstarts, past, if_pos hstarts, List.drop_left]

theorem afterToken?_eq_none (h : ¬ token <+: text) : afterToken? token text = none := by
  rw [afterToken?_eq, if_neg fun hstarts => h hstarts.2]

theorem beforeToken?_append (h : token.Firm) (rest : Text) :
    beforeToken? token (rest ++ token) = some (Text.trim rest) := by
  have hblank : Text.isBlank token = false := h.isBlank_append []
  have hsuffix : token.isSuffixOf? (rest ++ token) = some rest := by
    rw [List.isSuffixOf?_eq_some_iff_append_eq]
  rw [beforeToken?, hblank, if_neg Bool.false_ne_true, hsuffix, Option.map_some]

/-! ### Two ways to write a comment -/

/-- The line with a text behind the inline token. -/
def inlineComment (v : Vocabulary) (pad t : Text) : Text := pad ++ (v.inline ++ ' ' :: t)

/-- The line with a text in a block that ends where it began. -/
def oneLineBlock (v : Vocabulary) (pad t : Text) : Text :=
  pad ++ (v.blockOpen ++ ' ' :: (t ++ ' ' :: v.blockClose))

/-- A comment of its own with a text behind blanks. -/
def ownLine (pad t : Text) : CommentLine :=
  { role := { inline := true }, indent := pad.length, text := t }

section

variable (hout : previous.continuesBlock = false) (hpad : Text.isBlank pad = true) (ht : t.Firm)
include hout hpad ht

theorem classify_inlineComment (hinline : v.inline.Firm) (hstart : ¬ v.blockOpen <+: t)
    (hend : ¬ v.blockClose <:+ t) :
    v.classify previous (v.inlineComment pad t) = ownLine pad t := by
  have hbody : Text.Firm (v.inline ++ ' ' :: t) := hinline.append_append ht [' ']
  have hafter := afterToken?_append hinline (' ' :: t)
  rw [ht.trimStart_space] at hafter
  simp only [classify, inlineComment, hbody.trim_append hpad, hbody.indent_append hpad, hout,
    hafter, afterToken?_eq_none hstart, beforeToken?_eq_none hend, strip, Bool.false_eq_true,
    if_false, Bool.false_and]
  rfl

theorem classify_oneLineBlock (hopen : v.blockOpen.Firm) (hclose : v.blockClose.Firm)
    (hinline : ¬ v.inline <+: v.blockOpen) (hopen' : ¬ v.blockOpen <+: v.inline) :
    v.classify previous (v.oneLineBlock pad t) = ownLine pad t := by
  have hbody : Text.Firm (v.blockOpen ++ ' ' :: (t ++ ' ' :: v.blockClose)) := by
    have h := hopen.append_append hclose (' ' :: t ++ [' '])
    rwa [List.append_assoc] at h
  -- what starts with one of the two tokens does not start with the other one
  have hnone : afterToken? v.inline (v.blockOpen ++ ' ' :: (t ++ ' ' :: v.blockClose)) = none := by
    refine afterToken?_eq_none fun hprefix => ?_
    rcases List.prefix_or_prefix_of_prefix hprefix (List.prefix_append _ _) with h | h
    · exact hinline h
    · exact hopen' h
  have hafter := afterToken?_append hopen (' ' :: (t ++ ' ' :: v.blockClose))
  have hinner : Text.Firm (t ++ ' ' :: v.blockClose) := ht.append_append hclose [' ']
  rw [hinner.trimStart_space] at hafter
  have hbefore := beforeToken?_append hclose (t ++ [' '])
  rw [List.append_assoc, List.singleton_append, Text.trim_append (by decide), ht.trim_eq] at hbefore
  simp only [classify, oneLineBlock, hbody.trim_append hpad, hbody.indent_append hpad, hout, hnone,
    hafter, hbefore, strip, Bool.false_eq_true, if_false, Bool.and_self, if_true]
  rfl

end

end Vocabulary

/-! ### What is taken from a comment -/

theorem Node.Reading.isComment_eq {l : CommentLine} {lineNumber : Nat} {n : Node}
    (h : Reading l lineNumber n) : n.role.isComment = l.role.isComment := by
  cases h with
  | freeText hc => rw [hc, Role.isComment, Bool.or_true]
  | plain | configuration | separator | literal | appending | keyword => rfl

/-- Only a line inside a block can get another role from the notation. -/
theorem Node.Reading.role_eq {l : CommentLine} {lineNumber : Nat} {n : Node}
    (h : Reading l lineNumber n) (hl : l.role.blockLine = false) : n.role = l.role := by
  cases h with
  | freeText _ hb =>
    rw [hb] at hl
    cases hl
  | plain | configuration | separator | literal | appending | keyword => rfl

namespace Extractor

variable {x : Extractor} {s : Extract} {raw raw' : Text}

/-- Comments that are classified alike are taken alike. -/
theorem feed_congr (hc : (x.vocabulary.classify s.role raw).role.isComment = true)
    (h : x.vocabulary.classify s.role raw' = x.vocabulary.classify s.role raw) :
    x.feed s raw' = x.feed s raw := by
  have hnode : x.nextNode s raw' = x.nextNode s raw := by
    rw [nextNode, nodeOf, h, nextNode, nodeOf]
  have hcomment : (x.nextNode s raw).role.isComment = true := by
    rw [role_nextNode, (x.reading_bareNode s raw).isComment_eq, hc]
  rw [feed_eq, feed_eq, passed, passed, hnode, if_pos hcomment, if_pos hcomment]

/-- **Blocks on one line**: outside a block, a text between the tokens that open and close one is
taken like the text behind the inline token, with the same state afterwards: it is a comment of its
own with just that text, and no block is open. The tokens start and end with characters one sees,
as all tokens without blanks do. -/
theorem feed_oneLineBlock (x : Extractor) (s : Extract) (pad t : Text)
    (hinline : x.vocabulary.inline.Firm) (hopen : x.vocabulary.blockOpen.Firm)
    (hclose : x.vocabulary.blockClose.Firm)
    (hapart : ¬ x.vocabulary.inline <+: x.vocabulary.blockOpen)
    (hapart' : ¬ x.vocabulary.blockOpen <+: x.vocabulary.inline)
    (hout : s.role.continuesBlock = false) (hpad : Text.isBlank pad = true) (ht : t.Firm)
    (hstart : ¬ x.vocabulary.blockOpen <+: t) (hend : ¬ x.vocabulary.blockClose <:+ t) :
    let v := x.vocabulary
    let s' := x.feed s (v.oneLineBlock pad t)
    s' = x.feed s (v.inlineComment pad t) ∧ s'.role = { inline := true } ∧
      v.classify s.role (v.oneLineBlock pad t) =
        { role := { inline := true }, indent := pad.length, text := t } := by
  intro v s'
  have hcomment := Vocabulary.classify_inlineComment hout hpad ht hinline hstart hend
  have hblock := Vocabulary.classify_oneLineBlock hout hpad ht hopen hclose hapart hapart'
  have hfeed : s' = x.feed s (v.inlineComment pad t) :=
    feed_congr (by rw [hcomment]; rfl) (hblock.trans hcomment.symm)
  refine ⟨hfeed, ?_, hblock⟩
  have hread := x.reading_bareNode s (v.oneLineBlock pad t)
  rw [(step_feed x s (v.oneLineBlock pad t)).role_eq,
    hread.role_eq (congrArg (fun l => l.role.blockLine) hblock)]
  exact congrArg CommentLine.role hblock

/-- The text starts with the close token and ends with the open one, below an annotation that
collects lines. -/
theorem feed_oneLineBlock_tokens_inside :
    let x : Extractor := { vocabulary := Language.cFamily.vocabulary }
    let s := x.feedAll {} ["// .a ...".toList, "f();".toList]
    let t := "*/ .b> /* c /*".toList
    s.role.continuesBlock = false ∧ Text.Firm t ∧ ¬ "/*".toList <+: t ∧ ¬ "*/".toList <:+ t ∧
      x.feed s ("\t ".toList ++ "/* */ .b> /* c /* */".toList) =
        x.feed s ("\t ".toList ++ "// */ .b> /* c /*".toList) ∧
      (x.feed s ("\t ".toList ++ "/* */ .b> /* c /* */".toList)).role = { inline := true } := by
  intro x s t
  have hout : s.role.continuesBlock = false := by decide +kernel
  have ht : Text.Firm t := by decide
  have hstart : ¬ "/*".toList <+: t := by decide
  have hend : ¬ "*/".toList <:+ t := by decide
  have h := feed_oneLineBlock x s "\t ".toList t (by decide) (by decide) (by decide) (by decide)
    (by decide) hout (by decide) ht hstart hend
  exact ⟨hout, ht, hstart, hend, h.1, h.2.1⟩

end Extractor

end Marginalia
