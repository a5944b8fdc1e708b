import Marginalia.Language
import Marginalia.Proofs.Document.Filters
import Marginalia.Proofs.Extraction.Placement

/-!
# The lines that entries record

Next to the links of a tree, each node records the line of the node above it in a field of its own,
and a grammar may have written anything there. But a node takes its place in the tree after the
grammars, and the place writes the field anew; the line itself is never changed again, also not by
collapsing. So in the tree of a file the field and the links agree (`Grown.parent_get`), and the
document of the file has the right line in every entry (`parents_assemble`).
-/

namespace Marginalia

/-! ### Lines in a tree -/

namespace Tree

variable {t : Tree} {id p : Nat}

/-- In a tree that has grown, a node records the line of the node above it. -/
theorem Grown.parent_get (h : t.Grown) (hp : t.parent? id = some p) :
    (t.get id).parent = (t.get p).line := by
  induction h with
  | empty =>
    rw [parent?, slot_empty] at hp
    cases hp
  | @append t under node ht hu _ _ ih =>
    have hwf := ht.wellFormed
    have hus := hwf.lt_size_of_mem_edge hu
    rw [parent?_append hus] at hp
    split_ifs at hp with hnew
    · obtain rfl := Option.some.inj hp
      rw [get_append hus, if_pos hnew, get_append hus, if_neg (Nat.ne_of_lt hus)]
    · have hps := hwf.parent_lt_size hp
      rw [get_append hus, if_neg hnew, get_append hus, if_neg (Nat.ne_of_lt hps), ih hp]

theorem Grown.parent_get_collapse (h : t.Grown) (hid : id ∈ t.collapse.children p) :
    (t.collapse.get id).parent = (t.collapse.get p).line := by
  have hbefore : id ∈ t.children p := children_collapseWithin_subset _ _ t p hid
  have hparent : (t.collapse.get id).parent = (t.get id).parent :=
    same_collapse (f := Node.parent) (fun _ _ => rfl) t id
  have hline : (t.collapse.get p).line = (t.get p).line :=
    same_collapse (f := Node.line) (fun _ _ => rfl) t p
  rw [hparent, hline]
  exact h.parent_get (h.wellFormed.mem_children_iff.mp hbefore)

end Tree

/-! ### Lines in a document -/

/-- The roots of the forest record `line`, and what is under an entry records its line. -/
def Entry.Records (line : Nat) : Forest Entry → Prop
  | .nil => True
  | .cons e under rest => e.parent = line ∧ Records e.line under ∧ Records line rest

/-- Where the nodes of a tree record the right lines, so do the entries read off the tree. -/
theorem Entry.records_forestWithin {t : Tree}
    (ht : ∀ p, ∀ id ∈ t.children p, (t.get id).parent = (t.get p).line) (n : Nat)
    (ids : List Nat) (line : Nat) (hids : ∀ id ∈ ids, (t.get id).parent = line) :
    Records line (((t.forestWithin n ids).map t.get).map Entry.ofNode) := by
  induction n generalizing ids line with
  | zero => trivial
  | succ n ih =>
    cases ids with
    | nil => trivial
    | cons id ids =>
      rw [List.forall_mem_cons] at hids
      exact ⟨hids.1, ih (t.children id) (t.get id).line (ht id), ih ids line hids.2⟩

namespace Task

/-- **Recorded lines**: in the document of a file, whatever grammars wrote into the nodes, every
entry records the line of the entry above it; at the top, and for annotations about the file, that
is 0. -/
theorem parents_assemble (task : Task) (grammars : Grammars) (extension : Text)
    (lines : List Text) (path : Path) (timestamp : Text) (d : Document)
    (hd : task.assemble timestamp
      (((Extractor.ofTask task grammars extension).feedAll {} lines).parsed path) = .ok d) :
    Entry.Records 0 d.data ∧ ∀ e ∈ d.configuration.flatten, e.parent = 0 := by
  let s := (Extractor.ofTask task grammars extension).feedAll {} lines
  have hs : s.tree.Grown := Extractor.grown_start _ lines
  obtain ⟨-, rfl⟩ := (assemble_eq_ok_iff d).mp hd
  constructor
  · refine Entry.records_forestWithin (fun p id hid => hs.parent_get_collapse hid) _ _ 0 ?_
    intro id hid
    have hroot : (s.tree.collapse.get Tree.root).line = 0 := by
      rw [Tree.same_collapse (f := Node.line) (fun _ _ => rfl), hs.get_root]
    rw [← hroot]
    exact hs.parent_get_collapse hid
  · intro e he
    rw [Document.ofTree, Forest.flatten_ofNodes, List.mem_map] at he
    obtain ⟨n, hn, rfl⟩ := he
    exact Extractor.forall_mem_configuration (P := fun n => n.parent = 0)
      (fun _ _ _ hread _ => hread.parent_eq_zero) _ lines n hn

/-- A grammar sets line and parent of a literal line, with an annotation below it and a marked one
beside it. -/
theorem parents_assemble_grammar :
    let g : Grammar :=
      { extensions := ["c".toList]
        rules := .cons ⟨["x".toList], fun t => some ⟨[("x".toList, t)]⟩⟩
          (.assign "x".toList [(.line, "40".toList), (.parent, "9".toList)] .nil) .nil }
    let task : Task := { vocabulary := Language.cFamily.vocabulary }
    let s := (Extractor.ofTask task [g] "c".toList).feedAll {}
      ["// .emits.version 2".toList, "// \\value".toList, "    // .deep".toList,
        "// .b ...:".toList, "x;".toList]
    let d : Document :=
      { origin := .ofPath "a.c".toList []
        configuration :=
          .ofNodes [{ line := 1, keyword := "version".toList, value := "2".toList }]
        data :=
          .cons { line := 40, index := 1, value := "value".toList }
            (.cons { parent := 40, line := 3, index := 4, keyword := "deep".toList } .nil .nil)
            (.cons { line := 4, keyword := "b".toList } .nil .nil) }
    task.assemble [] (s.parsed "a.c".toList) = .ok d ∧ Entry.Records 0 d.data ∧
      ∀ e ∈ d.configuration.flatten, e.parent = 0 := by
  intro g task s d
  have hd : task.assemble [] (s.parsed "a.c".toList) = .ok d := by decide +kernel
  exact ⟨hd, parents_assemble task [g] "c".toList _ "a.c".toList [] d hd⟩

end Task

end Marginalia
