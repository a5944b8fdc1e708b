import Marginalia.Extraction
import Marginalia.Proofs.Tree.Growth

/-!
# What a line adds

A line does one of five things (`Step`, `step_feed`): it gives an annotation about the file, a node
placed by its index, or a comment that says nothing; or it is no comment, and is passed over or
collected below the node that asks for plain lines. So whatever the lines are, the tree grows at its
edge (`grown_feedAll`), and what has been read never changes (`extends_feedAll`). Other properties
of what has been collected are shown for one step and hold of a whole file by `invariant_feedAll`.

From this the tree of a file is well formed after any lines (`wellFormed_tree_feedAll`).
-/

namespace Marginalia

namespace Extractor

variable {x : Extractor} {s s' : Extract} {raw : Text}

/-! ### One line -/

/-- The node that the next line gives. -/
def nextNode (x : Extractor) (s : Extract) (raw : Text) : Node := x.nodeOf s.role (s.lines + 1) raw

/-- The next line counted and its role carried on, and nothing added. -/
def passed (x : Extractor) (s : Extract) (raw : Text) : Extract :=
  { s with role := (x.nextNode s raw).role, lines := s.lines + 1 }

/-- What taking a line can do. -/
inductive Step (x : Extractor) (s : Extract) (raw : Text) : Extract → Prop where
  /-- An annotation about the file. -/
  | configure (hc : (x.nextNode s raw).role.isComment = true)
      (hf : (x.nextNode s raw).configuration = true) :
      Step x s raw
        { x.passed s raw with configuration := s.configuration ++ [x.nextNode s raw] }
  /-- An annotation with a place in the tree. -/
  | insert (hc : (x.nextNode s raw).role.isComment = true)
      (hf : (x.nextNode s raw).configuration = false)
      (hd : (x.nextNode s raw).hasData = true) :
      Step x s raw { x.passed s raw with tree := s.tree.insert (x.nextNode s raw) }
  /-- A comment without data. -/
  | drop (hc : (x.nextNode s raw).role.isComment = true)
      (hf : (x.nextNode s raw).configuration = false)
      (hd : (x.nextNode s raw).hasData = false) : Step x s raw (x.passed s raw)
  /-- A plain line that no node collects. -/
  | skip (hc : (x.nextNode s raw).role.isComment = false)
      (hu : s.tree.appendingTarget = none) : Step x s raw (x.passed s raw)
  /-- A plain line collected below a node. -/
  | collect (u : Nat) (hc : (x.nextNode s raw).role.isComment = false)
      (hu : s.tree.appendingTarget = some u) :
      Step x s raw
        { x.passed s raw with
          tree := s.tree.append u (x.plainLeaf (s.tree.get u) (s.lines + 1) raw) }

theorem feed_eq (x : Extractor) (s : Extract) (raw : Text) :
    x.feed s raw =
      if (x.nextNode s raw).role.isComment then
        if (x.nextNode s raw).configuration then
          { x.passed s raw with configuration := s.configuration ++ [x.nextNode s raw] }
        else if (x.nextNode s raw).hasData then
          { x.passed s raw with tree := s.tree.insert (x.nextNode s raw) }
        else x.passed s raw
      else match s.tree.appendingTarget with
        | none => x.passed s raw
        | some u =>
          { x.passed s raw with
            tree := s.tree.append u (x.plainLeaf (s.tree.get u) (s.lines + 1) raw) } := rfl

/-- **Steps**: taking a line does one of the five things. -/
theorem step_feed (x : Extractor) (s : Extract) (raw : Text) : Step x s raw (x.feed s raw) := by
  rw [feed_eq]
  split_ifs with hc hf hd
  · exact Step.configure hc hf
  · rw [Bool.not_eq_true] at hf
    exact Step.insert hc hf hd
  · rw [Bool.not_eq_true] at hf hd
    exact Step.drop hc hf hd
  · rw [Bool.not_eq_true] at hc
    cases hu : s.tree.appendingTarget with
    | none => exact Step.skip hc hu
    | some u => exact Step.collect u hc hu

/-! ### All lines -/

@[simp] theorem feedAll_nil (x : Extractor) (s : Extract) : x.feedAll s [] = s := rfl

@[simp] theorem feedAll_cons (x : Extractor) (s : Extract) (raw : Text) (lines : List Text) :
    x.feedAll s (raw :: lines) = x.feedAll (x.feed s raw) lines := by
  rw [feedAll, List.foldl_cons, feedAll]

theorem feedAll_append (x : Extractor) (s : Extract) (before after : List Text) :
    x.feedAll s (before ++ after) = x.feedAll (x.feedAll s before) after := List.foldl_append

theorem Step.lines_eq (h : Step x s raw s') : s'.lines = s.lines + 1 := by
  cases h <;> rfl

theorem lines_feedAll (x : Extractor) (s : Extract) (lines : List Text) :
    (x.feedAll s lines).lines = s.lines + lines.length := by
  induction lines generalizing s with
  | nil => rfl
  | cons raw lines ih =>
    rw [feedAll_cons, ih, (step_feed x s raw).lines_eq, List.length_cons]
    omega

theorem Step.grown (h : Step x s raw s') (hs : s.tree.Grown) : s'.tree.Grown := by
  cases h with
  | configure | drop | skip => exact hs
  | insert => exact Tree.grown_insert hs _
  | collect u _ hu => exact Tree.grown_collect hs hu rfl

theorem Step.extends (h : Step x s raw s') (hs : s.tree.Grown) : s.tree.Extends s'.tree := by
  have hwf := hs.wellFormed
  cases h with
  | configure | drop | skip => exact Tree.Extends.refl _
  | insert => exact Tree.extends_insert hwf _
  | collect u _ hu =>
    exact Tree.extends_append (hwf.lt_size_of_mem_edge (Tree.mem_edge_of_appendingTarget hu)) _

/-- **Growth**: whatever the lines are, nodes are only attached at the edge. -/
theorem grown_feedAll (x : Extractor) (hs : s.tree.Grown) (lines : List Text) :
    (x.feedAll s lines).tree.Grown := by
  induction lines generalizing s with
  | nil => exact hs
  | cons raw lines ih => exact ih ((step_feed x s raw).grown hs)

theorem grown_start (x : Extractor) (lines : List Text) : (x.feedAll {} lines).tree.Grown :=
  grown_feedAll x Tree.Grown.empty lines

/-- What every step keeps holds after any lines, if it holds before them. -/
theorem invariant_feedAll {P : Extract → Prop}
    (hkeep : ∀ {s raw s'}, Step x s raw s' → s.tree.Grown → P s → P s') (hs : s.tree.Grown)
    (hold : P s) (lines : List Text) : P (x.feedAll s lines) := by
  induction lines generalizing s with
  | nil => exact hold
  | cons raw lines ih =>
    have hstep := step_feed x s raw
    exact ih (hstep.grown hs) (hkeep hstep hs hold)

/-- Nodes that are in the tree stay as they are. -/
theorem extends_feedAll (x : Extractor) (hs : s.tree.Grown) (lines : List Text) :
    s.tree.Extends (x.feedAll s lines).tree := by
  induction lines generalizing s with
  | nil => exact Tree.Extends.refl _
  | cons raw lines ih =>
    have hstep := step_feed x s raw
    exact (hstep.extends hs).trans (ih (hstep.grown hs))

/-- **The tree of a file is well formed** after any lines: it is linked with rising indices, the
root reaches every node, and the last node is the root or the newest. -/
theorem wellFormed_tree_feedAll (task : Task) (grammars : Grammars) (extension : Text)
    (lines : List Text) :
    let t := ((ofTask task grammars extension).feedAll {} lines).tree
    t.WellFormed ∧ (∀ id < t.size, t.Reaches Tree.root id) ∧
      t.last = if t.isEmpty then Tree.root else t.size - 1 := by
  intro t
  have hwf : t.WellFormed := (grown_start _ lines).wellFormed
  refine ⟨hwf, fun id hid => Tree.reaches_root hwf.toLinked hid, ?_⟩
  have hlast := hwf.last_eq
  split_ifs with he
  · have hsize := (Tree.isEmpty_iff hwf).mp he
    unfold Tree.root
    omega
  · omega

end Extractor

end Marginalia
