import Marginalia.Proofs.Text.Dedent

/-!
# Collapsing keeps the layout

A node that keeps its lines apart gets the values below it as lines, each behind as many spaces as
its index says. What all lines that show something have in front is taken away from them, and so are
blank lines at the end; how the lines stand to each other stays (`collapsedValue_lines`).
-/

namespace Marginalia

/-- The value of a node behind as many spaces as its index says, none if it is negative. -/
def Node.indentedValue (n : Node) : Text := Text.indented n.index.toNat n.value

namespace Tree

variable {t : Tree} {id : Nat}

/-- The values on lines of their own are the lines of one text. -/
theorem tail_flatMap_valueLine (ns : List Node) :
    (ns.flatMap valueLine).tail = Text.join ['\n'] (ns.map Node.indentedValue) := by
  rw [← Text.tail_flatMap_feed, List.flatMap_map]
  rfl

theorem collapsedValue_of_newline (h : (t.get id).newline = true) :
    t.collapsedValue id =
      Text.dedent (Text.join ['\n']
        ((t.descendants id).map fun d => (t.get d).indentedValue)) := by
  rw [collapsedValue, h, if_pos rfl, tail_flatMap_valueLine, List.map_map]
  rfl

/-- **Collapsing keeps the layout**: if no value below the node goes over a line, the collapsed
value consists of these values as lines behind the spaces that their indices ask for, without the
margin. Lines with a blank value are empty, and white space at the end is lost; from every other
line the margin is taken, which consists of spaces. -/
theorem collapsedValue_lines (t : Tree) (id : Nat) (hnewline : (t.get id).newline = true)
    (hbreak : ∀ d ∈ t.descendants id, '\n' ∉ (t.get d).value ∧ '\r' ∉ (t.get d).value) :
    let below := t.descendants id
    let line := fun d => (t.get d).indentedValue
    ∃ m, Text.IsMargin (below.map line) m ∧
      t.collapsedValue id = Text.trimEnd (Text.join ['\n'] (below.map fun d =>
        if Text.isBlank (t.get d).value then [] else (line d).drop m)) ∧
      ∀ d ∈ below, Text.isBlank (line d) = Text.isBlank (t.get d).value ∧
        (Text.isBlank (t.get d).value = false →
          line d = List.replicate m ' ' ++ (line d).drop m) := by
  intro below line
  have hblank : ∀ d, Text.isBlank (line d) = Text.isBlank (t.get d).value :=
    fun d => Text.isBlank_indented _ _
  have hfeed : ∀ l ∈ below.map line, '\n' ∉ l :=
    List.forall_mem_map.mpr fun d hd hmem =>
      (hbreak d hd).1 ((Text.mem_indented_iff (by decide) _).mp hmem)
  have hreturn : ∀ l ∈ below.map line, l.getLast? ≠ some '\r' :=
    List.forall_mem_map.mpr fun d hd hlast =>
      (hbreak d hd).2 ((Text.mem_indented_iff (by decide) _).mp (List.mem_of_getLast? hlast))
  refine ⟨Text.margin (below.map line), Text.isMargin_margin _, ?_, fun d hd => ⟨hblank d, ?_⟩⟩
  · rw [collapsedValue_of_newline hnewline, Text.dedent_join_lines hfeed hreturn, List.map_map]
    refine congrArg (fun ls => Text.trimEnd (Text.join ['\n'] ls))
      (List.map_congr_left fun d _ => ?_)
    rw [Function.comp_apply, Text.cutMargin, hblank]
  · intro hb
    exact Text.eq_spaces_append_drop_margin (List.mem_map_of_mem hd) ((hblank d).trans hb)

/-- Values blank at the start and at the end, one with spaces of its own at a deeper index, and one
with a negative index. The margin is 2. -/
theorem collapsedValue_lines_blank_ends :
    let t : Tree := (((((empty.append root { newline := true }).append 1 { index := 1 }).append 1
      { index := 2, value := "outer".toList }).append 3
      { index := 5, value := " inner".toList }).append 1
      { index := -1, value := "   last".toList }).append 1 { index := 4, value := " \t".toList }
    (t.get 1).newline = true ∧
      (∀ d ∈ t.descendants 1, '\n' ∉ (t.get d).value ∧ '\r' ∉ (t.get d).value) ∧
      t.collapsedValue 1 = "\nouter\n    inner\n last".toList := by
  intro t
  have hnewline : (t.get 1).newline = true := by decide +kernel
  have hbreak : ∀ d ∈ t.descendants 1, '\n' ∉ (t.get d).value ∧ '\r' ∉ (t.get d).value := by
    decide +kernel
  obtain ⟨m, hmargin, hvalue, -⟩ := collapsedValue_lines t 1 hnewline hbreak
  have hm : m = 2 := (Text.isMargin_iff.mp hmargin).symm.trans (by decide +kernel)
  refine ⟨hnewline, hbreak, ?_⟩
  rw [hvalue, hm]
  decide +kernel

end Tree

end Marginalia
