import Marginalia.Language
import Marginalia.Proofs.Extraction.Reading
import Marginalia.Proofs.Tree.Collapse
import Marginalia.Proofs.Tree.CollapsedLines

/-!
# Collapsing keeps the text

The *text* of a tree is all its values in pre-order. A marked node of a file has no value of its
own, so collapsing it puts the text of the nodes below it where it was, and the text of the tree is
the same but for indentation and line feeds (`text_collapse_feedAll`). Where the lines of no marked
node are kept apart, it is the same to the letter.
-/

namespace Marginalia

namespace Tree

variable {t : Tree} {id p : Nat} {ids : List Nat} {F : Forest Nat}

/-- The values of some nodes, one after the other. -/
def valuesOf (t : Tree) (ids : List Nat) : Text := ids.flatMap fun id => (t.get id).value

/-- The values of all nodes below the root, in pre-order. -/
def text (t : Tree) : Text := t.valuesOf (t.descendants root)

@[simp] theorem valuesOf_nil (t : Tree) : t.valuesOf [] = [] := rfl

@[simp] theorem valuesOf_cons (t : Tree) (id : Nat) (ids : List Nat) :
    t.valuesOf (id :: ids) = (t.get id).value ++ t.valuesOf ids := List.flatMap_cons

@[simp] theorem valuesOf_append (t : Tree) (ids ids' : List Nat) :
    t.valuesOf (ids ++ ids') = t.valuesOf ids ++ t.valuesOf ids' := List.flatMap_append

/-! ### Joined values -/

theorem collapsedValue_of_newline_eq_false (h : (t.get id).newline = false) :
    t.collapsedValue id = t.valuesOf (t.descendants id) := by
  rw [collapsedValue, h, if_neg Bool.false_ne_true, List.flatMap_map, valuesOf]

theorem visible_indentedValue (n : Node) : n.indentedValue.visible = n.value.visible := by
  rw [Node.indentedValue, Text.indented, Text.visible_append,
    Text.visible_of_isBlank (Text.isBlank_spaces _), List.nil_append]

/-- Joining adds and takes away blank characters only. -/
theorem visible_collapsedValue (t : Tree) (id : Nat) :
    (t.collapsedValue id).visible = (t.valuesOf (t.descendants id)).visible := by
  by_cases hn : (t.get id).newline = true
  · rw [collapsedValue_of_newline hn, Text.visible_dedent, Text.visible_join, List.flatMap_map,
      valuesOf, Text.visible_flatMap]
    exact List.flatMap_congr fun d _ => visible_indentedValue (t.get d)
  · rw [collapsedValue_of_newline_eq_false (Bool.not_eq_true _ ▸ hn)]

/-! ### The text of a forest -/

/-- What collapsing does to the characters of a kind, from what it does to single nodes. -/
theorem Spans.filter_valuesOf_collapse (h : t.Linked) (hr : (t.get root).collapsing = false)
    (q : Char → Bool) (hempty : ∀ id, (t.get id).collapsing = true → (t.get id).value = [])
    (hq : ∀ id, (t.get id).collapsing = true →
      (t.collapsedValue id).filter q = (t.valuesOf (t.descendants id)).filter q)
    (hs : t.Spans ids F) (hp : ∀ id ∈ ids, t.parent? id = some p)
    (hun : t.Uncovered p ∧ (p = root ∨ (t.get p).collapsing = false)) :
    (t.collapse.valuesOf (F.prune t.marked).flatten).filter q =
      (t.valuesOf F.flatten).filter q := by
  induction hs generalizing p with
  | nil => rfl
  | @cons id ids under rest hu hrest ihu ihr =>
    have hid : t.Uncovered id := (uncovered_iff_parent h (hp id List.mem_cons_self)).mpr hun
    have hafter := ihr (fun c hc => hp c (List.mem_cons_of_mem _ hc)) hun
    simp only [Forest.prune, Forest.flatten, List.cons_append, valuesOf_cons, valuesOf_append,
      List.filter_append, hafter, get_collapse h hr hid]
    by_cases hm : (t.get id).collapsing = true
    · have hbelow := hq id hm
      rw [hu.descendants_eq (hu.length_flatten_le h.hung)] at hbelow
      simp only [hm, if_true, show t.marked id = true from hm, hempty id hm, hbelow, Forest.flatten,
        valuesOf_nil, List.filter_nil, List.nil_append]
    · have hunder := ihu (fun c hc => h.mem_children_iff.mp hc)
        ⟨hid, Or.inr (Bool.not_eq_true _ ▸ hm)⟩
      rw [if_neg hm, if_neg (show ¬ t.marked id = true from hm), hunder]

theorem filter_text_collapse (h : t.Linked) (hr : (t.get root).collapsing = false)
    (q : Char → Bool) (hempty : ∀ id, (t.get id).collapsing = true → (t.get id).value = [])
    (hq : ∀ id, (t.get id).collapsing = true →
      (t.collapsedValue id).filter q = (t.valuesOf (t.descendants id)).filter q) :
    t.collapse.text.filter q = t.text.filter q := by
  rw [text, text, (descendants_collapse h hr).1, descendants_eq_flatten h.hung]
  exact (spans_numbersBelow h.hung root).filter_valuesOf_collapse h hr q hempty hq
    (fun c hc => h.mem_children_iff.mp hc) ⟨uncovered_root t, Or.inl rfl⟩

end Tree

namespace Extractor

/-- In the tree of a file, a node marked to be collapsed has no value of its own. -/
theorem value_eq_nil_of_collapsing (x : Extractor) (lines : List Text) (id : Nat) :
    ((x.feedAll {} lines).tree.get id).collapsing = true →
      ((x.feedAll {} lines).tree.get id).value = [] := by
  refine forall_get_feedAll (P := fun n => n.collapsing = true → n.value = []) ?_ ?_ lines ?_ ?_ id
  · exact fun _ => rfl
  · exact fun _ _ hn => hn
  · exact fun raw _ previous lineNumber => value_nodeOf_of_collapsing x previous lineNumber raw
  · exact fun _ _ _ _ hn => absurd hn Bool.false_ne_true

/-- **Collapsing keeps the text** of a file: no visible character is lost, doubled or moved, and if
no marked node keeps its lines apart, no character at all. -/
theorem text_collapse_feedAll (task : Task) (grammars : Grammars) (extension : Text)
    (lines : List Text) :
    let t := ((ofTask task grammars extension).feedAll {} lines).tree
    t.collapse.text.visible = t.text.visible ∧
      ((∀ id < t.size, (t.get id).collapsing = true → (t.get id).newline = false) →
        t.collapse.text = t.text) := by
  intro t
  have hg : t.Grown := grown_start _ lines
  have hr : (t.get Tree.root).collapsing = false := by rw [hg.get_root]
  have hempty : ∀ id, (t.get id).collapsing = true → (t.get id).value = [] :=
    value_eq_nil_of_collapsing _ lines
  constructor
  · exact Tree.filter_text_collapse hg.wellFormed.toLinked hr _ hempty
      fun id _ => Tree.visible_collapsedValue t id
  · intro hnewline
    have hjoin : ∀ id, (t.get id).collapsing = true → (t.get id).newline = false := by
      intro id hm
      by_cases hid : id < t.size
      · exact hnewline id hid hm
      · rw [Tree.get, Tree.slot_of_size_le (Nat.le_of_not_lt hid)]
    have hall := Tree.filter_text_collapse hg.wellFormed.toLinked hr (fun _ => true) hempty
      fun id hm => by rw [Tree.collapsedValue_of_newline_eq_false (hjoin id hm)]
    simpa using hall

/-- Lines joined without line feeds, one of them deeper than the next and two below a second marked
node, and a collected line of code. -/
theorem text_collapse_joined_lines :
    let task : Task := { vocabulary := Language.cFamily.vocabulary, showSource := true }
    let t := ((ofTask task [] []).feedAll {} ["/* .a ...:".toList, " *   one".toList,
      " * .b ...:".toList, " *  two".toList, " */".toList, "  x = 1;".toList]).tree
    (∀ id < t.size, (t.get id).collapsing = true → (t.get id).newline = false) ∧
      t.collapse.text = t.text ∧ t.text = "onetwox = 1;".toList := by
  intro task t
  have hjoin : ∀ id < t.size, (t.get id).collapsing = true → (t.get id).newline = false := by
    decide +kernel
  exact ⟨hjoin, (text_collapse_feedAll task [] [] _).2 hjoin, by decide +kernel⟩

end Extractor

end Marginalia
