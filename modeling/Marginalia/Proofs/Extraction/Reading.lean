import Marginalia.Proofs.Extraction.Steps
import Marginalia.Proofs.Grammar.Untouched
import Marginalia.Proofs.Text.Trim
import Mathlib.Data.List.Infix

/-!
# How a line is read

The notation makes one of seven things of a line (`Reading`, `reading_ofLine`). A grammar may fill
in fields afterwards, but not the marks of the node. So what the readings have in common holds of
every node of a line: a line inside a block gives a node that says so, and a node marked to be
collapsed has no value of its own, which also keeps grammars away from it.

A property of nodes that holds of every reading, of collected lines and of the root holds of all
nodes of a file (`forall_get_feedAll`).

The role carried on and the annotations about the file are those of the notation alone, without the
grammars (`Step.role_eq`, `Step.configuration_eq`).
-/

namespace Marginalia

/-- A text is not closed by a token that it does not end in. -/
theorem Vocabulary.beforeToken?_eq_none {token t : Text} (h : ¬ token <:+ t) :
    beforeToken? token t = none := by
  have hsuffix : token.isSuffixOf? t = none := by
    rw [← Option.not_isSome_iff_eq_none, List.isSome_isSuffixOf?_eq_isSuffixOf,
      List.isSuffixOf_iff_suffix]
    exact h
  rw [beforeToken?, hsuffix, Option.map_none, ite_self]

namespace Node

variable {l : CommentLine} {lineNumber : Nat} {n : Node}

/-- Keyword, value, flags and index as the line has them. -/
def annotated (l : CommentLine) (lineNumber : Nat) : Node :=
  let k := KeywordLine.ofText l.text l.indent
  { line := lineNumber, role := l.role, keyword := k.keyword, value := k.value, flags := k.flags
    index := k.index }

/-- What the notation can make of a line. -/
inductive Reading (l : CommentLine) (lineNumber : Nat) : Node → Prop where
  /-- The line is no comment. -/
  | plain (hc : l.role.isComment = false) :
      Reading l lineNumber { line := lineNumber, index := l.indent, role := l.role }
  /-- An annotation about the file. -/
  | configuration (hc : l.role.isComment = true) (hi : (annotated l lineNumber).index = 0)
      (hm : configurationMark <+: (annotated l lineNumber).keyword) :
      Reading l lineNumber
        { annotated l lineNumber with
          keyword := (annotated l lineNumber).keyword.drop configurationMark.length
          configuration := true }
  /-- A separator. -/
  | separator (rest : Text) (hc : l.role.isComment = true)
      (hk : (annotated l lineNumber).keyword = '.' :: rest) :
      Reading l lineNumber { annotated l lineNumber with keyword := rest, separator := true }
  /-- A text after a backslash. -/
  | literal (text : Text) (hc : l.role.isComment = true) (ht : l.text = '\\' :: text) :
      Reading l lineNumber
        { annotated l lineNumber with
          index := (annotated l lineNumber).index + 1, keyword := [], value := text }
  /-- The start of collected lines. -/
  | appending (hc : l.role.isComment = true)
      (hm : appendingMark <+: (annotated l lineNumber).value) :
      Reading l lineNumber
        { annotated l lineNumber with
          value := [], appending := true
          collapsing :=
            ((annotated l lineNumber).value.drop appendingMark.length).getLast? == some ':'
          newline :=
            "::".toList.isSuffixOf ((annotated l lineNumber).value.drop appendingMark.length) }
  /-- Text inside a block. -/
  | freeText (hc : l.role.isComment = true) (hb : l.role.blockLine = true)
      (hk : (annotated l lineNumber).keyword = []) (hv : (annotated l lineNumber).value = []) :
      Reading l lineNumber
        { annotated l lineNumber with
          index := (annotated l lineNumber).index + 1
          value := l.text
          role := { (annotated l lineNumber).role with inline := true } }
  /-- An annotation without more to it. -/
  | keyword (hc : l.role.isComment = true) : Reading l lineNumber (annotated l lineNumber)

/-- **Readings**: a line is read in one of the seven ways. -/
theorem reading_ofLine (l : CommentLine) (lineNumber : Nat) :
    Reading l lineNumber (ofLine l lineNumber) := by
  unfold ofLine
  by_cases hc : l.role.isComment = true
  · simp only [hc, Bool.not_true, Bool.false_eq_true, if_false]
    split
    · rename_i hm
      rw [Bool.and_eq_true, beq_iff_eq, List.isPrefixOf_iff_prefix] at hm
      exact .configuration hc hm.1 hm.2
    · split
      · rename_i rest hk
        exact .separator rest hc hk
      · split
        · rename_i text ht
          exact .literal text hc ht
        · split
          · rename_i hm
            rw [List.isPrefixOf_iff_prefix] at hm
            exact .appending hc hm
          · split
            · rename_i hm
              simp only [Bool.and_eq_true, List.isEmpty_iff] at hm
              exact .freeText hc hm.2 hm.1.1 hm.1.2
            · exact .keyword hc
  · rw [Bool.not_eq_true] at hc
    simp only [hc, Bool.not_false, if_true]
    exact .plain hc

theorem Reading.blockLine_eq (h : Reading l lineNumber n) :
    n.role.blockLine = l.role.blockLine := by
  cases h <;> rfl

theorem Reading.line_eq (h : Reading l lineNumber n) : n.line = lineNumber := by
  cases h <;> rfl

theorem Reading.value_eq_nil (h : Reading l lineNumber n) (hn : n.collapsing = true) :
    n.value = [] := by
  cases h with
  | appending => rfl
  | plain | configuration | separator | literal | freeText | keyword => cases hn

theorem Reading.parent_eq_zero (h : Reading l lineNumber n) : n.parent = 0 := by
  cases h <;> rfl

/-- Only a comment whose keyword has the mark says something about the file. -/
theorem Reading.configuration_eq_false_of_not_mark (h : Reading l lineNumber n)
    (hm : l.role.isComment = true → ¬ configurationMark <+: (annotated l lineNumber).keyword) :
    n.configuration = false := by
  cases h with
  | configuration hc _ hmark => exact absurd hmark (hm hc)
  | plain | separator | literal | appending | freeText | keyword => rfl

/-- A line without a keyword says nothing about the file. -/
theorem Reading.configuration_eq_false (h : Reading l lineNumber n)
    (hk : (annotated l lineNumber).keyword = []) : n.configuration = false := by
  refine h.configuration_eq_false_of_not_mark fun _ hm => ?_
  rw [hk, List.prefix_nil] at hm
  cases hm

/-- Annotations about the file stand in comments. -/
theorem Reading.configuration_eq_false_of_not_isComment (h : Reading l lineNumber n)
    (hc : n.role.isComment = false) : n.configuration = false := by
  cases h with
  | configuration hcomment =>
    have hrole : l.role.isComment = false := hc
    rw [hcomment] at hrole
    cases hrole
  | plain | separator | literal | appending | freeText | keyword => rfl

/-- A text inside a block that is no annotation and is not escaped is taken as it is. -/
theorem ofLine_of_plain (hb : l.role.blockLine = true)
    (hdot : '.' ∉ l.text) (hescape : l.text.head? ≠ some '\\') :
    ofLine l lineNumber =
      { line := lineNumber, index := l.indent + 1, value := l.text
        role := { l.role with inline := true } } := by
  have hread : KeywordLine.ofText l.text l.indent = { index := l.indent } := by
    rw [KeywordLine.ofText, Text.cutAt_eq_none hdot]
  have hcomment : l.role.isComment = true := by
    rw [Role.isComment, hb, Bool.or_true, Bool.true_or, Bool.true_or]
  have hmark : configurationMark.isPrefixOf [] = false := rfl
  have happending : appendingMark.isPrefixOf [] = false := rfl
  simp only [ofLine, hread, hcomment, hmark, hb, happending, Bool.not_true, Bool.and_false,
    Bool.false_eq_true, if_false]
  split
  · rename_i literal ht
    exact absurd (by rw [ht]; rfl) hescape
  · rfl

end Node

namespace Extractor

variable {x : Extractor} {s s' : Extract} {raw : Text}

/-! ### The node of a line -/

/-- The node of the next line before any grammar is offered it. -/
def bareNode (x : Extractor) (s : Extract) (raw : Text) : Node :=
  Node.ofLine (x.vocabulary.classify s.role raw) (s.lines + 1)

theorem reading_bareNode (x : Extractor) (s : Extract) (raw : Text) :
    Node.Reading (x.vocabulary.classify s.role raw) (s.lines + 1) (x.bareNode s raw) :=
  Node.reading_ofLine _ _

theorem configuration_nextNode (x : Extractor) (s : Extract) (raw : Text) :
    (x.nextNode s raw).configuration = (x.bareNode s raw).configuration :=
  Grammars.configuration_apply _ _ _

theorem role_nextNode (x : Extractor) (s : Extract) (raw : Text) :
    (x.nextNode s raw).role = (x.bareNode s raw).role :=
  Grammars.role_apply _ _ _

/-- No grammar touches an annotation about the file. -/
theorem nextNode_of_configuration (hn : (x.bareNode s raw).configuration = true) :
    x.nextNode s raw = x.bareNode s raw := by
  have hkeep : (x.bareNode s raw).hasValue = false := by
    rw [Node.hasValue, hn, Bool.not_true, Bool.and_false]
  exact Grammars.apply_of_hasValue_eq_false hkeep

/-- What is carried to the next line is the role that the notation gives. -/
theorem Step.role_eq (h : Step x s raw s') : s'.role = (x.bareNode s raw).role := by
  rw [← role_nextNode]
  cases h <;> rfl

/-- A line adds to the annotations about the file what the notation marks as such. -/
theorem Step.configuration_eq (h : Step x s raw s') :
    s'.configuration = s.configuration ++
      if (x.bareNode s raw).configuration then [x.bareNode s raw] else [] := by
  cases h with
  | configure hc hf =>
    rw [configuration_nextNode] at hf
    rw [nextNode_of_configuration hf, hf, if_pos rfl]
  | insert hc hf | drop hc hf =>
    rw [← configuration_nextNode, hf, if_neg Bool.false_ne_true, List.append_nil]
    rfl
  | skip hc | collect u hc =>
    rw [role_nextNode] at hc
    have hf := (x.reading_bareNode s raw).configuration_eq_false_of_not_isComment hc
    rw [hf, if_neg Bool.false_ne_true, List.append_nil]
    rfl

/-- Where no grammar sets the line of a node, it is that of the source. -/
theorem line_nodeOf (hx : Grammar.Field.line ∉ Grammars.targets x.grammars) (previous : Role)
    (lineNumber : Nat) (raw : Text) : (x.nodeOf previous lineNumber raw).line = lineNumber := by
  rw [nodeOf, Grammars.line_apply hx, (Node.reading_ofLine _ _).line_eq]

/-- A node that is marked to be collapsed has no value of its own. -/
theorem value_nodeOf_of_collapsing (x : Extractor) (previous : Role) (lineNumber : Nat)
    (raw : Text) (hn : (x.nodeOf previous lineNumber raw).collapsing = true) :
    (x.nodeOf previous lineNumber raw).value = [] := by
  have hcollapsing : (Node.ofLine (x.vocabulary.classify previous raw) lineNumber).collapsing =
      true := by
    rw [← hn, nodeOf, Grammars.collapsing_apply]
  have hvalue := (Node.reading_ofLine _ _).value_eq_nil hcollapsing
  have hkeep : (Node.ofLine (x.vocabulary.classify previous raw) lineNumber).hasValue = false := by
    rw [Node.hasValue, hvalue]
    rfl
  rw [nodeOf, Grammars.apply_of_hasValue_eq_false hkeep, hvalue]

/-! ### All nodes -/

section Forall

variable {P : Node → Prop}

theorem Step.forall_get (h : Step x s raw s') (hs : s.tree.Grown)
    (hplaced : ∀ n line, P n → P { n with parent := line })
    (hnode : ∀ previous lineNumber, P (x.nodeOf previous lineNumber raw))
    (hleaf : ∀ above lineNumber, P (x.plainLeaf above lineNumber raw))
    (hold : ∀ id, P (s.tree.get id)) : ∀ id, P (s'.tree.get id) := by
  have hwf := hs.wellFormed
  have happend : ∀ under node, under < s.tree.size → P node →
      ∀ id, P ((s.tree.append under node).get id) := by
    intro under node hu hn id
    rw [Tree.get_append hu]
    split_ifs
    · exact hplaced _ _ hn
    · exact hold id
  cases h with
  | configure | drop | skip => exact hold
  | insert => exact happend _ _ (hwf.lt_size_of_mem_edge (hwf.placement_mem_edge _)) (hnode _ _)
  | collect u _ hu =>
    exact happend _ _ (hwf.lt_size_of_mem_edge (Tree.mem_edge_of_appendingTarget hu)) (hleaf _ _)

/-- What holds of the root, of every reading of the lines and of every collected line holds of all
nodes. -/
theorem forall_get_feedAll (hroot : P {})
    (hplaced : ∀ n line, P n → P { n with parent := line }) (lines : List Text)
    (hnode : ∀ raw ∈ lines, ∀ previous lineNumber, P (x.nodeOf previous lineNumber raw))
    (hleaf : ∀ raw ∈ lines, ∀ above lineNumber, P (x.plainLeaf above lineNumber raw)) (id : Nat) :
    P ((x.feedAll {} lines).tree.get id) := by
  induction lines using List.reverseRecOn generalizing id with
  | nil =>
    rw [feedAll_nil, Tree.get, show (({} : Extract).tree).slot id = {} from Tree.slot_empty id]
    exact hroot
  | append_singleton lines raw ih =>
    have hold := ih (fun l hl => hnode l (List.mem_append_left _ hl))
      fun l hl => hleaf l (List.mem_append_left _ hl)
    have hraw : raw ∈ lines ++ [raw] := List.mem_append_right _ List.mem_cons_self
    rw [feedAll_append, feedAll_cons, feedAll_nil]
    exact (step_feed x _ raw).forall_get (grown_start x lines) hplaced (hnode raw hraw)
      (hleaf raw hraw) hold id

end Forall

end Extractor

end Marginalia
