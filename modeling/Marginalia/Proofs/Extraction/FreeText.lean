import Marginalia.Language
import Marginalia.Proofs.Extraction.Reading
import Marginalia.Proofs.Tree.Insertion

/-!
# Free text of a block

A line inside a block that has text, but neither a keyword nor a value, is *free text*. Its node is
inserted by its index like any other. So although all free text of a block is deeper than the
annotation that opened it, not all of it need stand below that annotation: once a line steps back
over every level that the lines before it have left open, it goes beside the annotation
(`exists_freeText_outside_opener`), and so does what follows.

`descendants_opener_eq` says exactly which free text the annotation keeps, and in which order
collapsing finds it: the nodes up to which the indices keep a level open.
-/

namespace Marginalia

theorem Vocabulary.blockLine_classify (v : Vocabulary) (previous : Role) (raw : Text) :
    (v.classify previous raw).role.blockLine = previous.continuesBlock := rfl

namespace Extractor

variable {x : Extractor} {s : Extract} {raw : Text} {i : Int} {lines : List Text}

/-- The line is inside a block, and it has text but neither a keyword nor a value. -/
def IsFreeText (x : Extractor) (s : Extract) (raw : Text) : Prop :=
  let l := x.vocabulary.classify s.role raw
  s.role.continuesBlock = true ∧ (KeywordLine.ofText l.text l.indent).keyword = [] ∧
    (KeywordLine.ofText l.text l.indent).value = [] ∧ l.text ≠ []

instance (x : Extractor) (s : Extract) (raw : Text) : Decidable (x.IsFreeText s raw) :=
  inferInstanceAs (Decidable (_ ∧ _ ∧ _ ∧ _))

/-- All lines are free text with larger indices than `i`. -/
def FreeText (x : Extractor) (i : Int) : Extract → List Text → Prop
  | _, [] => True
  | s, raw :: lines =>
    x.IsFreeText s raw ∧ i < (x.nextNode s raw).index ∧ x.FreeText i (x.feed s raw) lines

theorem tree_feed_of_insert (hc : (x.nextNode s raw).role.isComment = true)
    (hf : (x.nextNode s raw).configuration = false) (hd : (x.nextNode s raw).hasData = true) :
    (x.feed s raw).tree = s.tree.insert (x.nextNode s raw) := by
  rw [feed_eq, if_pos hc, hf, if_neg Bool.false_ne_true, if_pos hd]

/-- Free text is inserted, unless a grammar has taken its value away. -/
theorem tree_feed_of_isFreeText (h : x.IsFreeText s raw) :
    (x.feed s raw).tree =
      if (x.nextNode s raw).hasData then s.tree.insert (x.nextNode s raw) else s.tree := by
  obtain ⟨hb, hk, -, -⟩ := h
  have hread := x.reading_bareNode s raw
  have hf : (x.nextNode s raw).configuration = false := by
    rw [configuration_nextNode, hread.configuration_eq_false hk]
  have hc : (x.nextNode s raw).role.isComment = true := by
    rw [role_nextNode, Role.isComment, hread.blockLine_eq,
      Vocabulary.blockLine_classify, hb, Bool.or_true, Bool.true_or, Bool.true_or]
  rw [feed_eq, if_pos hc, hf, if_neg Bool.false_ne_true]
  split_ifs <;> rfl

/-- Free text does nothing but insert deeper nodes. -/
theorem exists_insertNodes_of_freeText (h : x.FreeText i s lines) :
    ∃ nodes : List Node, (∀ node ∈ nodes, i < node.index) ∧
      (x.feedAll s lines).tree = s.tree.insertNodes nodes := by
  induction lines generalizing s with
  | nil => exact ⟨[], fun _ hn => absurd hn List.not_mem_nil, rfl⟩
  | cons raw lines ih =>
    obtain ⟨hfree, hi, hrest⟩ := h
    obtain ⟨nodes, hnodes, htree⟩ := ih hrest
    rw [feedAll_cons, htree, tree_feed_of_isFreeText hfree]
    split_ifs
    · refine ⟨x.nextNode s raw :: nodes, fun node hn => ?_, rfl⟩
      rcases List.mem_cons.mp hn with rfl | hn
      · exact hi
      · exact hnodes node hn
    · exact ⟨nodes, hnodes, rfl⟩

/-- **Free text** below the node that opened its block: when a line inserts a node and free text
with larger indices follows, then the nodes below that node are, in pre-order, those up to which
the indices keep a level open. -/
theorem descendants_opener_eq (task : Task) (grammars : Grammars) (extension : Text)
    (before texts : List Text) (raw : Text) :
    let x := ofTask task grammars extension
    let s := x.feedAll {} before
    let a := s.tree.size
    let t := (x.feedAll s (raw :: texts)).tree
    (x.nextNode s raw).role.isComment = true → (x.nextNode s raw).configuration = false →
      (x.nextNode s raw).hasData = true →
      x.FreeText (x.nextNode s raw).index (x.feed s raw) texts →
      t.descendants a = (List.range' (a + 1) (t.size - (a + 1))).filter fun id =>
        (Levels.after (t.indices (a + 1) (id - a))).isSome := by
  intro x s a t hc hf hd hfree
  have hs : s.tree.Grown := grown_start x before
  have hopen := tree_feed_of_insert hc hf hd
  have hg : (x.feed s raw).tree.Grown := (step_feed x s raw).grown hs
  have hsize : (x.feed s raw).tree.size = a + 1 := by rw [hopen, Tree.insert, Tree.size_append]
  have hlast : (x.feed s raw).tree.last = a := by rw [hopen, Tree.insert, Tree.last_append]
  have hindex : ((x.feed s raw).tree.get a).index = (x.nextNode s raw).index := by
    rw [hopen, Tree.insert, Tree.get_append
      (hs.wellFormed.lt_size_of_mem_edge (hs.wellFormed.placement_mem_edge _)), if_pos rfl]
  have hroot : (x.feed s raw).tree.last ≠ Tree.root := by
    rw [hlast]
    exact Nat.ne_of_gt hs.wellFormed.root_lt
  obtain ⟨nodes, hnodes, htree⟩ := exists_insertNodes_of_freeText hfree
  have ht : t = (x.feed s raw).tree.insertNodes nodes := by
    rw [← htree, ← feedAll_cons]
  have hcount : t.size - (a + 1) = nodes.length := by
    rw [ht, Tree.size_insertNodes, hsize, Nat.add_sub_cancel_left]
  have hbelow := Tree.descendants_insertNodes hg hroot
    fun node hn => by rw [hlast, hindex]; exact hnodes node hn
  rwa [hlast, hsize, ← ht, ← hcount] at hbelow

/-- The third line takes the level of the first one and the fourth steps back over all of them, so
the fifth comes below the fourth. -/
theorem descendants_opener_eq_until_left :
    let t := ((ofTask { vocabulary := Language.cFamily.vocabulary } [] []).feedAll {}
      ["/* .a ...::".toList, "    one".toList, "       two".toList, "    three".toList,
        "  gone".toList, "    late".toList]).tree
    t.descendants 1 = [2, 3, 4] := by
  have h := descendants_opener_eq { vocabulary := Language.cFamily.vocabulary } [] [] []
    ["    one".toList, "       two".toList, "    three".toList, "  gone".toList, "    late".toList]
    "/* .a ...::".toList (by decide +kernel) (by decide +kernel) (by decide +kernel)
    ⟨by decide +kernel, by decide +kernel, by decide +kernel, by decide +kernel,
      by decide +kernel, by decide +kernel, by decide +kernel, by decide +kernel,
      by decide +kernel, by decide +kernel, trivial⟩
  intro t
  refine h.trans ?_
  decide +kernel

/-- Text of a block that steps back, though it is still deeper than the annotation that opened the
block, goes beside that annotation. -/
theorem exists_freeText_outside_opener :
    ¬ ∀ (task : Task) (grammars : Grammars) (extension : Text) (before texts : List Text)
      (raw : Text),
      let x := ofTask task grammars extension
      let s := x.feedAll {} before
      let a := s.tree.size
      let t := (x.feedAll s (raw :: texts)).tree
      s.role.continuesBlock = false → (x.nextNode s raw).role.blockOpen = true →
        (x.nextNode s raw).configuration = false → (x.nextNode s raw).hasData = true →
        (x.nextNode s raw).appending = true →
        x.FreeText (x.nextNode s raw).index (x.feed s raw) texts →
        ∀ id, a < id → id < t.size → id ∈ t.descendants a := by
  intro h
  have hmem := h { vocabulary := Language.cFamily.vocabulary } [] [] []
    ["      deep".toList, "   shallow".toList] "/* .a ...::".toList
    (by decide +kernel) (by decide +kernel) (by decide +kernel) (by decide +kernel)
    (by decide +kernel)
    ⟨by decide +kernel, by decide +kernel, by decide +kernel, by decide +kernel, trivial⟩
    3 (by decide +kernel) (by decide +kernel)
  revert hmem
  decide +kernel

end Extractor

end Marginalia
