import Marginalia.Language
import Marginalia.Proofs.Extraction.Reading
import Marginalia.Proofs.Tree.Order

/-!
# The order of the source

What a file gives stands in the order of its lines. New nodes are attached at the edge of the tree,
so they come last in pre-order, and annotations about the file come last in their list. What was
there before stays as it is (`sourceOrder_feedAll`).

Each line gives one node at most, either in the tree or about the file, and the node has the number
of the line unless a grammar sets another one. So the line numbers in the tree and those of the
annotations about the file are two rising lists without a common number (`Interleaved`).
-/

namespace Marginalia

/-! ### Two rising lists -/

/-- Two rising lists of numbers from 1 to `n`, without a common number. -/
structure Interleaved (n : Nat) (as bs : List Nat) : Prop where
  rising_left : as.Pairwise (· < ·)
  rising_right : bs.Pairwise (· < ·)
  bounds : ∀ l, l ∈ as ∨ l ∈ bs → 1 ≤ l ∧ l ≤ n
  disjoint : ∀ l, l ∈ as → l ∉ bs

namespace Interleaved

variable {n : Nat} {as bs : List Nat}

theorem nil (n : Nat) : Interleaved n [] [] where
  rising_left := List.Pairwise.nil
  rising_right := List.Pairwise.nil
  bounds l hl := by simp at hl
  disjoint l hl := absurd hl List.not_mem_nil

theorem symm (h : Interleaved n as bs) : Interleaved n bs as where
  rising_left := h.rising_right
  rising_right := h.rising_left
  bounds l hl := h.bounds l hl.symm
  disjoint l hb ha := h.disjoint l ha hb

/-- A number may be left out. -/
theorem skip (h : Interleaved n as bs) : Interleaved (n + 1) as bs where
  rising_left := h.rising_left
  rising_right := h.rising_right
  bounds l hl := by
    have := h.bounds l hl
    omega
  disjoint := h.disjoint

/-- The next number goes to the end of either list. -/
theorem concat (h : Interleaved n as bs) : Interleaved (n + 1) (as ++ [n + 1]) bs where
  rising_left := by
    refine List.pairwise_append.mpr ⟨h.rising_left, List.pairwise_singleton _ _, ?_⟩
    intro a ha b hb
    have := h.bounds a (Or.inl ha)
    rw [List.mem_singleton] at hb
    omega
  rising_right := h.rising_right
  bounds l hl := by
    rw [List.mem_append, List.mem_singleton] at hl
    rcases hl with (ha | rfl) | hb
    · have := h.bounds l (Or.inl ha)
      omega
    · omega
    · have := h.bounds l (Or.inr hb)
      omega
  disjoint l hl hb := by
    rcases List.mem_append.mp hl with ha | hnew
    · exact h.disjoint l ha hb
    · have := h.bounds l (Or.inr hb)
      rw [List.mem_singleton] at hnew
      omega

end Interleaved

/-! ### Line numbers -/

namespace Tree

variable {t : Tree} {under : Nat} {node : Node}

/-- The line numbers of the nodes below the root, in pre-order. -/
def lineNumbers (t : Tree) : List Nat := (t.descendants root).map fun id => (t.get id).line

theorem lineNumbers_append (h : t.Grown) (hu : under < t.size) (h' : (t.append under node).Grown) :
    (t.append under node).lineNumbers = t.lineNumbers ++ [node.line] := by
  have hroot := h.wellFormed.root_lt
  have hsize : (t.append under node).size - 1 = (t.size - 1) + 1 := by
    rw [size_append]
    unfold root at hroot
    omega
  have hlast : 1 + 1 * (t.size - 1) = t.size := by
    unfold root at hroot
    omega
  rw [lineNumbers, lineNumbers, h'.descendants_root, h.descendants_root, hsize,
    List.range'_concat, List.map_append, List.map_singleton, hlast, get_append hu, if_pos rfl]
  congr 1
  refine List.map_congr_left fun id hid => ?_
  rw [List.mem_range'_1] at hid
  rw [get_append hu, if_neg (by omega)]

end Tree

/-- The line numbers of the annotations about the file, in order. -/
def Extract.configurationLines (s : Extract) : List Nat := s.configuration.map (·.line)

namespace Extractor

variable {x : Extractor} {s s' : Extract} {raw : Text}

theorem Step.configuration_grows (h : Step x s raw s') : s.configuration <+: s'.configuration := by
  rw [h.configuration_eq]
  exact List.prefix_append _ _

theorem configuration_grows_feedAll (x : Extractor) (s : Extract) (lines : List Text) :
    s.configuration <+: (x.feedAll s lines).configuration := by
  induction lines generalizing s with
  | nil => exact List.prefix_rfl
  | cons raw lines ih => exact (step_feed x s raw).configuration_grows.trans (ih _)

/-- A line gives its number to one list at most. -/
theorem Step.interleaved (h : Step x s raw s') (hs : s.tree.Grown)
    (hx : Grammar.Field.line ∉ Grammars.targets x.grammars)
    (hn : Interleaved s.lines s.tree.lineNumbers s.configurationLines) :
    Interleaved s'.lines s'.tree.lineNumbers s'.configurationLines := by
  have hgrown := h.grown hs
  have hnode : (x.nextNode s raw).line = s.lines + 1 := line_nodeOf hx _ _ _
  have hwf := hs.wellFormed
  rw [h.lines_eq]
  cases h with
  | configure =>
    have hconf : s.configurationLines ++ [s.lines + 1] =
        (s.configuration ++ [x.nextNode s raw]).map (·.line) := by
      rw [List.map_append, List.map_singleton, hnode]
      rfl
    show Interleaved _ s.tree.lineNumbers _
    rw [Extract.configurationLines, ← hconf]
    exact hn.symm.concat.symm
  | insert =>
    have hplace := hwf.lt_size_of_mem_edge (hwf.placement_mem_edge (x.nextNode s raw).index)
    have htree := Tree.lineNumbers_append hs hplace hgrown
    rw [hnode] at htree
    show Interleaved _ (s.tree.append _ _).lineNumbers s.configurationLines
    rw [htree]
    exact hn.concat
  | drop | skip => exact hn.skip
  | collect u _ hu =>
    have hus := hwf.lt_size_of_mem_edge (Tree.mem_edge_of_appendingTarget hu)
    have htree := Tree.lineNumbers_append hs hus hgrown
    show Interleaved _ (s.tree.append _ _).lineNumbers s.configurationLines
    rw [htree]
    exact hn.concat

theorem interleaved_feedAll (x : Extractor) (hs : s.tree.Grown)
    (hx : Grammar.Field.line ∉ Grammars.targets x.grammars)
    (hn : Interleaved s.lines s.tree.lineNumbers s.configurationLines) (lines : List Text) :
    Interleaved (x.feedAll s lines).lines (x.feedAll s lines).tree.lineNumbers
      (x.feedAll s lines).configurationLines :=
  invariant_feedAll
    (P := fun s => Interleaved s.lines s.tree.lineNumbers s.configurationLines)
    (fun hstep hs hn => hstep.interleaved hs hx hn) hs hn lines

/-- **Source order**: in pre-order the nodes stand as they were attached. Further lines change no
node and no list that is there, they only add to the end of pre-order, of children and of the
annotations about the file. Where no grammar sets the line of a node, line numbers rise in
pre-order and along the annotations about the file, and no line gives a node to both. -/
theorem sourceOrder_feedAll (task : Task) (grammars : Grammars) (extension : Text)
    (before after : List Text) :
    let x := ofTask task grammars extension
    let s := x.feedAll {} before
    let s' := x.feedAll s after
    s.tree.descendants Tree.root = List.range' 1 (s.tree.size - 1) ∧
      s.tree.descendants Tree.root <+: s'.tree.descendants Tree.root ∧
      s.tree.Extends s'.tree ∧ s.configuration <+: s'.configuration ∧
      (Grammar.Field.line ∉ Grammars.targets grammars →
        Interleaved before.length s.tree.lineNumbers s.configurationLines) := by
  intro x s s'
  have hs : s.tree.Grown := grown_start x before
  have hs' : s'.tree.Grown := grown_feedAll x hs after
  have hext : s.tree.Extends s'.tree := extends_feedAll x hs after
  refine ⟨hs.descendants_root, ?_, hext, configuration_grows_feedAll x s after, fun hx => ?_⟩
  · have hsize := hext.size_le
    rw [hs.descendants_root, hs'.descendants_root]
    obtain ⟨k, hk⟩ := Nat.exists_eq_add_of_le (Nat.sub_le_sub_right hsize 1)
    rw [hk, ← List.range'_append_1]
    exact List.prefix_append _ _
  · have hlines : s.lines = before.length := by
      rw [lines_feedAll]
      exact Nat.zero_add _
    rw [← hlines]
    exact interleaved_feedAll x Tree.Grown.empty hx (.nil 0) before

/-- An annotation about the file between nodes of the tree, a collected line of code, and a grammar
that sets keyword and index of a literal line. -/
theorem sourceOrder_feedAll_grammar :
    let g : Grammar :=
      { extensions := ["c".toList]
        rules := .cons ⟨["x".toList], fun t => some ⟨[("x".toList, t)]⟩⟩
          (.assign "x".toList [(.keyword, "k".toList), (.index, "7".toList)] .nil) .nil }
    let s := (ofTask { vocabulary := Language.cFamily.vocabulary } [g] "c".toList).feedAll {}
      ["// .a ...".toList, "".toList, "// .emits.version 2".toList, "// \\value".toList]
    Grammar.Field.line ∉ Grammars.targets [g] ∧ s.tree.lineNumbers = [1, 2, 4] ∧
      s.configurationLines = [3] ∧ Interleaved 4 s.tree.lineNumbers s.configurationLines := by
  intro g s
  have hg : Grammar.Field.line ∉ Grammars.targets [g] := by decide
  have h := sourceOrder_feedAll { vocabulary := Language.cFamily.vocabulary } [g] "c".toList
    ["// .a ...".toList, "".toList, "// .emits.version 2".toList, "// \\value".toList] []
  exact ⟨hg, by decide +kernel, by decide +kernel, h.2.2.2.2 hg⟩

end Extractor

end Marginalia
