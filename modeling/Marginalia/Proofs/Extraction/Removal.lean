import Marginalia.Language
import Marginalia.Proofs.Extraction.BlockState
import Marginalia.Proofs.Grammar.Alike
import Marginalia.Proofs.Tree.Relabel

/-!
# Taking plain lines out

As long as no annotation collects lines, a plain line leaves nothing behind but a gap in the
numbering of the lines. It need not leave the same role behind as the line before it, but it does
leave the same answer to the one question that the next line asks: no block is open before it, or it
would be a line of the block, and none is open after it.

So a file may be read with and without some of its plain lines side by side. What the two readings
have collected stays the same but for the line numbers in the nodes (`Extract.Matches`): a line
taken by both keeps it so (`matches_feed`), and so does a plain line taken by one of them
alone (`matches_feed_of_plain`). Hence plain lines can be taken out of a file without a collecting
annotation (`feedAll_without_plain`).
-/

namespace Marginalia

/-- The node without its own line number and the one of the node above it. -/
def Node.unnumbered (n : Node) : Node := { n with line := 0, parent := 0 }

/-- What does not depend on line numbers is the same in nodes that differ in these alone. -/
theorem Node.same_of_unnumbered {β : Type} (f : Node → β) {n n' : Node}
    (h : n.unnumbered = n'.unnumbered) (hf : ∀ n : Node, f n.unnumbered = f n) : f n = f n' := by
  rw [← hf n, h, hf n']

/-- Only the value decides what grammars do to a node, and no number is read off it. -/
theorem Grammar.respected_unnumbered :
    Grammar.Respected fun n n' => n.unnumbered = n'.unnumbered where
  value_eq _ _ hn := Node.same_of_unnumbered Node.value hn fun _ => rfl
  assign n n' hn field text := by
    simp only [Node.unnumbered, Node.mk.injEq, true_and] at hn
    cases field <;> simp [Grammar.Field.assign, Node.unnumbered, hn]

/-! ### Trees -/

namespace Tree

variable {t t' : Tree} {under : Nat} {node : Node}

/-- The tree without line numbers. -/
def unnumbered (t : Tree) : Tree := t.mapNodes fun _ n => n.unnumbered

theorem size_eq_of_unnumbered (h : t.unnumbered = t'.unnumbered) : t.size = t'.size := by
  have hsize := congrArg Tree.size h
  rwa [unnumbered, unnumbered, size_mapNodes, size_mapNodes] at hsize

/-- Line numbers do not decide on the place of a node. -/
theorem placement_unnumbered (ht : t.WellFormed) (index : Int) :
    t.unnumbered.placement index = t.placement index := by
  have hplace := placement_mapNodes (f := fun _ n => n.unnumbered) (k := 0) ht
    (fun _ n _ => (Int.add_zero n.index).symm) index
  rwa [Int.add_zero] at hplace

theorem appendingTarget_unnumbered (ht : t.WellFormed) :
    t.unnumbered.appendingTarget = t.appendingTarget :=
  appendingTarget_mapNodes ht fun _ _ => rfl

theorem unnumbered_append (hu : under < t.size) (node : Node) :
    (t.append under node).unnumbered = t.unnumbered.append under node.unnumbered :=
  (append_mapNodes hu rfl).symm

theorem index_get_of_unnumbered (h : t.unnumbered = t'.unnumbered) (hu : under < t.size) :
    (t.get under).index = (t'.get under).index := by
  have hu' : under < t'.size := size_eq_of_unnumbered h ▸ hu
  have hget := congrArg (fun t => (t.get under).index) h
  simp only [unnumbered] at hget
  rwa [get_mapNodes hu, get_mapNodes hu'] at hget

end Tree

/-! ### One line for both -/

namespace Vocabulary

/-- A line asks of the line before only whether it left a block open. -/
theorem classify_congr (v : Vocabulary) {previous previous' : Role}
    (h : previous.continuesBlock = previous'.continuesBlock) (raw : Text) :
    v.classify previous raw = v.classify previous' raw := by
  simp only [classify, h]

end Vocabulary

theorem Node.unnumbered_ofLine (l : CommentLine) (lineNumber lineNumber' : Nat) :
    (ofLine l lineNumber).unnumbered = (ofLine l lineNumber').unnumbered := by
  unfold ofLine
  dsimp only
  split
  · rfl
  split
  · rfl
  split
  · rfl
  split
  · rfl
  split
  · rfl
  split <;> rfl

/-- What has been collected is the same but for line numbers, and the next line will be read
alike. -/
structure Extract.Matches (s s' : Extract) : Prop where
  tree_eq : s.tree.unnumbered = s'.tree.unnumbered
  configuration_eq :
    s.configuration.map Node.unnumbered = s'.configuration.map Node.unnumbered
  inside_eq : s.role.continuesBlock = s'.role.continuesBlock

namespace Extractor

variable {x : Extractor} {s s' : Extract} {raw : Text}

theorem unnumbered_nextNode (h : s.Matches s') (x : Extractor) (raw : Text) :
    (x.nextNode s raw).unnumbered = (x.nextNode s' raw).unnumbered := by
  have hline : x.vocabulary.classify s.role raw = x.vocabulary.classify s'.role raw :=
    x.vocabulary.classify_congr h.inside_eq raw
  have hbare : (x.bareNode s raw).unnumbered = (x.bareNode s' raw).unnumbered := by
    rw [bareNode, hline]
    exact Node.unnumbered_ofLine _ _ _
  exact Grammars.apply_respected Grammar.respected_unnumbered x.grammars x.extension hbare
    (Node.same_of_unnumbered Node.hasKeyword hbare fun _ => rfl)
    (Node.same_of_unnumbered Node.hasValue hbare fun _ => rfl)

/-- **Matching**: a line taken by both readings changes both alike. -/
theorem matches_feed (h : s.Matches s') (hs : s.tree.Grown) (hs' : s'.tree.Grown)
    (x : Extractor) (raw : Text) : (x.feed s raw).Matches (x.feed s' raw) := by
  have hwf := hs.wellFormed
  have hwf' := hs'.wellFormed
  have hnode := unnumbered_nextNode h x raw
  have hrole : (x.nextNode s raw).role = (x.nextNode s' raw).role :=
    Node.same_of_unnumbered Node.role hnode fun _ => rfl
  have hinside : (x.passed s raw).role.continuesBlock = (x.passed s' raw).role.continuesBlock :=
    congrArg Role.continuesBlock hrole
  have hconf : (x.nextNode s raw).configuration = (x.nextNode s' raw).configuration :=
    Node.same_of_unnumbered Node.configuration hnode fun _ => rfl
  have hdata : (x.nextNode s raw).hasData = (x.nextNode s' raw).hasData :=
    Node.same_of_unnumbered Node.hasData hnode fun _ => rfl
  have hindex : (x.nextNode s raw).index = (x.nextNode s' raw).index :=
    Node.same_of_unnumbered Node.index hnode fun _ => rfl
  have hplace : ∀ i, s.tree.placement i = s'.tree.placement i := by
    intro i
    rw [← Tree.placement_unnumbered hwf, h.tree_eq, Tree.placement_unnumbered hwf']
  have htarget : s.tree.appendingTarget = s'.tree.appendingTarget := by
    rw [← Tree.appendingTarget_unnumbered hwf, h.tree_eq, Tree.appendingTarget_unnumbered hwf']
  have happend : ∀ u < s.tree.size, ∀ n n' : Node, n.unnumbered = n'.unnumbered →
      (s.tree.append u n).unnumbered = (s'.tree.append u n').unnumbered := by
    intro u hu n n' hn
    rw [Tree.unnumbered_append hu, hn, h.tree_eq,
      Tree.unnumbered_append (Tree.size_eq_of_unnumbered h.tree_eq ▸ hu)]
  rw [feed_eq, feed_eq, ← hrole, ← hconf, ← hdata, ← htarget]
  split_ifs
  · refine ⟨h.tree_eq, ?_, hinside⟩
    rw [List.map_append, List.map_append, h.configuration_eq, List.map_singleton,
      List.map_singleton, hnode]
  · refine ⟨?_, h.configuration_eq, hinside⟩
    have hu := hwf.lt_size_of_mem_edge (hwf.placement_mem_edge (x.nextNode s raw).index)
    have hinsert := happend _ hu _ _ hnode
    rw [Tree.insert, Tree.insert, ← hplace (x.nextNode s' raw).index, ← hindex]
    exact hinsert
  · exact ⟨h.tree_eq, h.configuration_eq, hinside⟩
  · cases hu : s.tree.appendingTarget with
    | none => exact ⟨h.tree_eq, h.configuration_eq, hinside⟩
    | some u =>
      have hlt := hwf.lt_size_of_mem_edge (Tree.mem_edge_of_appendingTarget hu)
      refine ⟨happend u hlt _ _ ?_, h.configuration_eq, hinside⟩
      rw [plainLeaf, plainLeaf, Tree.index_get_of_unnumbered h.tree_eq hlt]
      rfl

/-- A plain line that no node collects can be left out. -/
theorem matches_feed_of_plain (hc : (x.nextNode s raw).role.isComment = false)
    (hu : s.tree.appendingTarget = none) : (x.feed s raw).Matches s := by
  have hfeed : x.feed s raw = x.passed s raw := by
    rw [feed_eq, hc, if_neg Bool.false_ne_true, hu]
  have hrole := hc
  rw [Role.isComment, Bool.or_eq_false_iff, Bool.or_eq_false_iff, Bool.or_eq_false_iff] at hrole
  obtain ⟨⟨⟨hopen, hline⟩, -⟩, -⟩ := hrole
  -- a line that began inside a block would be a comment
  have hbefore : s.role.continuesBlock = false := by
    rw [role_nextNode, (x.reading_bareNode s raw).blockLine_eq] at hline
    exact hline
  have hafter : (x.passed s raw).role.continuesBlock = false := by
    rw [passed, Role.continuesBlock, hopen, hline]
    rfl
  rw [hfeed]
  exact ⟨rfl, rfl, by rw [hafter, hbefore]⟩

/-! ### All lines -/

/-- What collects no lines in the end has never collected any. -/
theorem appendingTarget_eq_none (hs : s.tree.Grown) {lines : List Text}
    (hquiet : ∀ id, ((x.feedAll s lines).tree.get id).appending = false) :
    s.tree.appendingTarget = none := by
  cases hu : s.tree.appendingTarget with
  | none => rfl
  | some u =>
    have hlt := hs.wellFormed.lt_size_of_mem_edge (Tree.mem_edge_of_appendingTarget hu)
    have happending := Tree.appending_of_appendingTarget hu
    rw [← (extends_feedAll x hs lines).get_eq u hlt, hquiet u] at happending
    cases happending

/-- Of two matching readings one may leave out plain lines; `i` is the place of the next line. -/
theorem matches_feedAll (h : s.Matches s') (hs : s.tree.Grown) (hs' : s'.tree.Grown)
    (kept : Nat → Bool) (lines : List Text) (i : Nat)
    (hquiet : ∀ id, ((x.feedAll s lines).tree.get id).appending = false)
    (hplain : ∀ j < lines.length, kept (i + j) = false →
      (x.feedAll s (lines.take (j + 1))).role.isComment = false) :
    (x.feedAll s lines).Matches
      (x.feedAll s' (((lines.zipIdx i).filter fun l => kept l.2).map Prod.fst)) := by
  induction lines generalizing s s' i with
  | nil => exact h
  | cons raw lines ih =>
    have hgrown := (step_feed x s raw).grown hs
    have hrest : ∀ j < lines.length, kept (i + 1 + j) = false →
        (x.feedAll (x.feed s raw) (lines.take (j + 1))).role.isComment = false := by
      intro j hj hk
      rw [Nat.add_assoc, Nat.add_comm 1 j] at hk
      exact hplain (j + 1) (Nat.succ_lt_succ hj) hk
    rw [List.zipIdx_cons, List.filter_cons]
    cases hk : kept i with
    | true =>
      rw [if_pos rfl, List.map_cons, feedAll_cons, feedAll_cons]
      exact ih (matches_feed h hs hs' x raw) hgrown ((step_feed x s' raw).grown hs') (i + 1)
        hquiet hrest
    | false =>
      rw [if_neg Bool.false_ne_true, feedAll_cons]
      have hrole : (x.nextNode s raw).role.isComment = false := by
        rw [role_nextNode, ← (step_feed x s raw).role_eq]
        exact hplain 0 (Nat.zero_lt_succ _) hk
      have hskip := matches_feed_of_plain hrole (appendingTarget_eq_none hs hquiet)
      exact ih ⟨hskip.tree_eq.trans h.tree_eq, hskip.configuration_eq.trans h.configuration_eq,
        hskip.inside_eq.trans h.inside_eq⟩ hgrown hs' (i + 1) hquiet hrest

/-- **Plain lines** may be taken out of a file in which no annotation collects lines: the tree and
the annotations about the file are the same but for the line numbers in the nodes. -/
theorem feedAll_without_plain (task : Task) (grammars : Grammars) (extension : Text)
    (lines : List Text) (kept : Nat → Bool) :
    let x := ofTask task grammars extension
    let s := x.feedAll {} lines
    let s' := x.feedAll {} ((lines.zipIdx.filter fun l => kept l.2).map Prod.fst)
    (∀ id, (s.tree.get id).appending = false) →
      (∀ i < lines.length, kept i = false →
        (x.feedAll {} (lines.take (i + 1))).role.isComment = false) →
      s'.tree.unnumbered = s.tree.unnumbered ∧
        s'.configuration.map Node.unnumbered = s.configuration.map Node.unnumbered := by
  intro x s s' hquiet hplain
  have hmatch : s.Matches s' :=
    matches_feedAll ⟨rfl, rfl, rfl⟩ Tree.Grown.empty Tree.Grown.empty kept lines 0 hquiet
      fun j hj hk => hplain j hj (by rwa [Nat.zero_add] at hk)
  exact ⟨hmatch.tree_eq.symm, hmatch.configuration_eq.symm⟩

/-- Code stands before, between and behind comments; some of it is taken out, and with it the line
behind the block. A grammar sets the line of the literal one. -/
theorem feedAll_without_plain_grammar :
    let g : Grammar :=
      { extensions := ["c".toList]
        rules := .cons ⟨["x".toList], fun t => some ⟨[("x".toList, t)]⟩⟩
          (.assign "x".toList [(.line, "40".toList)] .nil) .nil }
    let x := ofTask { vocabulary := Language.cFamily.vocabulary } [g] "c".toList
    let s := x.feedAll {} ["use a;".toList, "// .emits.version 2".toList, "/* .a".toList,
      "  free text */".toList, "f();".toList, "g();".toList, "    // \\value".toList,
      "h();".toList, "      // .deep".toList]
    let s' := x.feedAll {} ["// .emits.version 2".toList, "/* .a".toList,
      "  free text */".toList, "g();".toList, "    // \\value".toList,
      "      // .deep".toList]
    (s.tree.get 3).line = 40 ∧ (s.tree.get 4).line = 9 ∧ (s'.tree.get 4).line = 6 ∧
      s'.tree.unnumbered = s.tree.unnumbered ∧
      s'.configuration.map Node.unnumbered = s.configuration.map Node.unnumbered := by
  intro g x s s'
  have h := feedAll_without_plain { vocabulary := Language.cFamily.vocabulary } [g] "c".toList
    ["use a;".toList, "// .emits.version 2".toList, "/* .a".toList, "  free text */".toList,
      "f();".toList, "g();".toList, "    // \\value".toList, "h();".toList,
      "      // .deep".toList]
    (fun i => i != 0 && i != 4 && i != 7)
  have hquiet : ∀ id < s.tree.size, (s.tree.get id).appending = false := by decide +kernel
  refine ⟨by decide +kernel, by decide +kernel, by decide +kernel, h (fun id => ?_) ?_⟩
  · by_cases hid : id < s.tree.size
    · exact hquiet id hid
    · rw [Tree.get, Tree.slot_of_size_le (Nat.le_of_not_lt hid)]
  · decide +kernel

end Extractor

end Marginalia
