import Marginalia.Language
import Marginalia.Proofs.Extraction.Steps

/-!
# Plain lines

A line without comment tokens, outside a block, is *plain* (`Vocabulary.IsPlain`). Its text goes
nowhere unless the task shows source: two files that differ in hidden plain lines only give the same
extract (`feedAll_eq_of_hidden`).

A plain line becomes a node below the one that collects it. That node is the last one for a moment,
so the next annotation can still go below it; it stays a leaf exactly when the next node is not
deeper (`plainLine_isLeaf_iff`).
-/

namespace Marginalia

namespace Vocabulary

/-- No comment token is on the line: neither the inline nor the open token starts it, and the close
token does not end it. -/
def IsPlain (v : Vocabulary) (raw : Text) : Prop :=
  afterToken? v.inline (Text.trim raw) = none ∧ afterToken? v.blockOpen (Text.trim raw) = none ∧
    beforeToken? v.blockClose (Text.trim raw) = none

instance (v : Vocabulary) (raw : Text) : Decidable (v.IsPlain raw) :=
  inferInstanceAs (Decidable (_ ∧ _ ∧ _))

theorem classify_of_isPlain {v : Vocabulary} {previous : Role} {raw : Text}
    (hr : previous.continuesBlock = false) (hp : v.IsPlain raw) :
    v.classify previous raw = { indent := Text.indent raw, text := Text.trim raw } := by
  obtain ⟨hinline, hopen, hclose⟩ := hp
  simp only [classify, hr, hinline, hopen, hclose, strip, Bool.false_eq_true, if_false,
    Bool.false_and]

end Vocabulary

namespace Extractor

variable {x : Extractor} {s : Extract} {raw : Text}

/-! ### Hidden text -/

theorem nextNode_of_isPlain (hr : s.role.continuesBlock = false) (hp : x.vocabulary.IsPlain raw) :
    x.nextNode s raw = { line := s.lines + 1, index := Text.indent raw } := by
  rw [nextNode, nodeOf, Vocabulary.classify_of_isPlain hr hp]
  rfl

/-- A plain line leaves no trace of its text and indentation when source is not shown. -/
theorem feed_of_isPlain (hx : x.showSource = false) (hr : s.role.continuesBlock = false)
    (hp : x.vocabulary.IsPlain raw) :
    x.feed s raw =
      { s with
        role := {}
        lines := s.lines + 1
        tree := match s.tree.appendingTarget with
          | none => s.tree
          | some u => s.tree.append u
            { line := s.lines + 1, index := (s.tree.get u).index + 1, role := { inline := true } } }
      := by
  have hnode := nextNode_of_isPlain hr hp
  have hc : (x.nextNode s raw).role.isComment = false := by rw [hnode]; rfl
  rw [feed_eq, if_neg (by rw [hc]; exact Bool.false_ne_true)]
  cases s.tree.appendingTarget with
  | none => simp only [passed, hnode]
  | some u => simp only [passed, hnode, plainLeaf, hx, Bool.false_eq_true, if_false]

/-- **Source stays hidden**: when source is not shown, files of equal length that agree but for
plain lines outside blocks give the same extract. -/
theorem feedAll_eq_of_hidden (task : Task) (hs : task.showSource = false) (grammars : Grammars)
    (extension : Text) (ls₁ ls₂ : List Text) (hlen : ls₁.length = ls₂.length)
    (hl : ∀ i (h₁ : i < ls₁.length) (h₂ : i < ls₂.length), ls₁[i] = ls₂[i] ∨
      ((ofTask task grammars extension).feedAll {} (ls₁.take i)).role.continuesBlock = false ∧
        task.vocabulary.IsPlain ls₁[i] ∧ task.vocabulary.IsPlain ls₂[i]) :
    (ofTask task grammars extension).feedAll {} ls₁ =
      (ofTask task grammars extension).feedAll {} ls₂ := by
  let x := ofTask task grammars extension
  have hx : x.showSource = false := hs
  -- the induction is on the number of lines read in both runs
  have hruns : ∀ n ≤ ls₁.length, x.feedAll {} (ls₁.take n) = x.feedAll {} (ls₂.take n) := by
    intro n
    induction n with
    | zero =>
      intro _
      rw [List.take_zero, List.take_zero]
    | succ n ih =>
      intro hn
      have h₁ : n < ls₁.length := hn
      have h₂ : n < ls₂.length := hlen ▸ hn
      have hstate := ih h₁.le
      rw [List.take_succ_eq_append_getElem h₁, List.take_succ_eq_append_getElem h₂,
        feedAll_append, feedAll_append, feedAll_cons, feedAll_cons, feedAll_nil, feedAll_nil]
      rcases hl n h₁ h₂ with heq | ⟨hr, hp₁, hp₂⟩
      · rw [hstate, heq]
      · rw [feed_of_isPlain hx hr hp₁, hstate]
        exact (feed_of_isPlain hx (hstate ▸ hr) hp₂).symm
  have h := hruns ls₁.length le_rfl
  rwa [List.take_length, hlen, List.take_length] at h

/-- Code after a block says nothing, and neither does what stands in its place. -/
theorem feedAll_code_after_block :
    (ofTask { vocabulary := Language.cFamily.vocabulary } [] []).feedAll {}
        ["/* .a ...".toList, " * text".toList, " */".toList, "let key = \"k\";".toList,
          "// .b".toList] =
      (ofTask { vocabulary := Language.cFamily.vocabulary } [] []).feedAll {}
        ["/* .a ...".toList, " * text".toList, " */".toList, "      return".toList,
          "// .b".toList] :=
  feedAll_eq_of_hidden _ rfl [] [] _ _ rfl (by decide +kernel)

/-! ### Leaves -/

theorem tree_feed_of_collect {u : Nat} (hc : (x.nextNode s raw).role.isComment = false)
    (hu : s.tree.appendingTarget = some u) :
    (x.feed s raw).tree = s.tree.append u (x.plainLeaf (s.tree.get u) (s.lines + 1) raw) := by
  rw [feed_eq, if_neg (by rw [hc]; exact Bool.false_ne_true), hu]

/-- **Collected lines**: a collected line has no nodes below it exactly when the node after it, if
there is one, is not deeper. -/
theorem plainLine_isLeaf_iff (task : Task) (grammars : Grammars) (extension : Text)
    (before after : List Text) (raw : Text) (u : Nat) :
    let x := ofTask task grammars extension
    let s := x.feedAll {} before
    let t := (x.feedAll {} (before ++ raw :: after)).tree
    (x.nextNode s raw).role.isComment = false → s.tree.appendingTarget = some u →
      t.parent? s.tree.size = some u ∧
        t.get s.tree.size =
          { x.plainLeaf (t.get u) (before.length + 1) raw with parent := (t.get u).line } ∧
        (t.children s.tree.size = [] ↔
          (s.tree.size + 1 < t.size →
            (t.get (s.tree.size + 1)).index ≤ (t.get s.tree.size).index)) := by
  intro x s t hc hu
  have hs : s.tree.Grown := grown_start x before
  have hus : u < s.tree.size :=
    hs.wellFormed.lt_size_of_mem_edge (Tree.mem_edge_of_appendingTarget hu)
  have hlines : s.lines = before.length := by
    rw [lines_feedAll]
    exact Nat.zero_add _
  have hfeed := tree_feed_of_collect hc hu
  have hext : (x.feed s raw).tree.Extends t := by
    show (x.feed s raw).tree.Extends (x.feedAll {} (before ++ raw :: after)).tree
    rw [feedAll_append, feedAll_cons]
    exact extends_feedAll x ((step_feed x s raw).grown hs) after
  have hleaf : s.tree.size < (x.feed s raw).tree.size := by
    rw [hfeed, Tree.size_append]
    exact Nat.lt_succ_self _
  have hget : t.get u = s.tree.get u := by
    rw [hext.get_eq u (hus.trans hleaf), hfeed, Tree.get_append hus, if_neg (Nat.ne_of_lt hus)]
  refine ⟨?_, ?_, ?_⟩
  · rw [hext.parent_eq _ hleaf, hfeed, Tree.parent?_append hus, if_pos rfl]
  · rw [hext.get_eq _ hleaf, hget, hfeed, Tree.get_append hus, if_pos rfl, hlines]
  · have hroot : s.tree.size ≠ Tree.root := Nat.ne_of_gt hs.wellFormed.root_lt
    exact (grown_start x _).children_eq_nil_iff hroot

/-- The first of two collected lines stays a leaf, though an indented annotation follows them. -/
theorem plainLine_isLeaf_before_plainLine :
    let t := ((ofTask { vocabulary := Language.cFamily.vocabulary } [] []).feedAll {}
      ["// .code ...".toList, "x;".toList, "y;".toList, "      // .deep".toList]).tree
    t.parent? 2 = some 1 ∧ t.children 2 = [] := by
  have h := plainLine_isLeaf_iff { vocabulary := Language.cFamily.vocabulary } [] []
    ["// .code ...".toList] ["y;".toList, "      // .deep".toList] "x;".toList 1
    (by decide +kernel) (by decide +kernel)
  exact ⟨h.1, h.2.2.mpr (by decide +kernel)⟩

/-- An annotation indented deeper than the code before it goes below the line of code. -/
theorem exists_annotation_below_plainLine :
    ¬ ∀ (task : Task) (grammars : Grammars) (extension : Text) (before after : List Text)
      (raw : Text) (u : Nat),
      let x := ofTask task grammars extension
      let s := x.feedAll {} before
      (x.nextNode s raw).role.isComment = false → s.tree.appendingTarget = some u →
        (x.feedAll {} (before ++ raw :: after)).tree.children s.tree.size = [] := by
  intro h
  have hnil := h { vocabulary := Language.cFamily.vocabulary } [] [] ["// .code ...".toList]
    ["    // .deep".toList] "x;".toList 1 (by decide +kernel) (by decide +kernel)
  revert hnil
  decide +kernel

end Extractor

end Marginalia
