import Marginalia.Document.Json
import Marginalia.Proofs.Json.Decode
import Mathlib.Algebra.Group.Int.Defs
import Mathlib.Algebra.Group.Nat.Defs

/-!
# Documents come back from their text

A document is written without its empty fields and read with them. Each of its parts is read from
what is written of it: the origin (`Origin.reads_toJson`), an entry with the entries below it
(`Entry.reads_toJson`), and forests of entries (`Entry.reads_forest`), where the reader unfolds once
for each level and the nesting of the value is what bounds it.

So a document whose numbers fit, and whose text does not nest too deep, comes back from its text in
each layout, and so does an index (`Document.run_toJson`).
-/

namespace Marginalia

open Json Json.Decoder

theorem Forest.eq_nil_of_isEmpty {α : Type} {f : Forest α} (h : f.isEmpty = true) : f = .nil := by
  cases f with
  | nil => rfl
  | cons => cases h

/-! ### Origins -/

namespace Origin

theorem map_filter_cons {α β : Type} (q : α → Bool) (g : α → β) (a : α) (as : List α) :
    ((a :: as).filter (!q ·)).map g =
      (if q a then [] else [g a]) ++ (as.filter (!q ·)).map g := by
  cases h : q a <;> simp [h]

/-- The fields of an origin in order, each left out if it is empty. -/
theorem toJson_eq (o : Origin) :
    o.toJson = .ofFields (
      (if o.directory.isEmpty then [] else [("path".toList, .string o.directory)]) ++
      ((if o.name.isEmpty then [] else [("name".toList, .string o.name)]) ++
      ((if o.extension.isEmpty then [] else [("extension".toList, .string o.extension)]) ++
      ((if o.timestamp.isEmpty then [] else [("timestamp".toList, .string o.timestamp)]) ++
      [])))) := by
  rw [toJson, map_filter_cons, map_filter_cons, map_filter_cons, map_filter_cons]
  rfl

theorem fits_toJson (o : Origin) : o.toJson.Fits := by
  refine Members.fits_ofList fun m hm => ?_
  obtain ⟨field, -, rfl⟩ := List.mem_map.mp hm
  trivial

theorem reads_toJson (o : Origin) : Reads decoder o.toJson o := by
  rw [toJson_eq]
  refine reads_record (by decide) ?_
  refine .default (fun _ => reads_text o.directory) List.isEmpty_iff.mp rfl ?_
  refine .default (fun _ => reads_text o.name) List.isEmpty_iff.mp rfl ?_
  refine .default (fun _ => reads_text o.extension) List.isEmpty_iff.mp rfl ?_
  exact .default (fun _ => reads_text o.timestamp) List.isEmpty_iff.mp rfl .nil

end Origin

/-! ### Entries -/

/-- The numbers of an entry fit: those of lines 64 bits without a sign, the index 32 bits with
one. -/
structure Entry.Fits (e : Entry) : Prop where
  parent : e.parent < 2 ^ 64
  line : e.line < 2 ^ 64
  index : -2 ^ 31 ≤ e.index ∧ e.index < 2 ^ 31

instance (e : Entry) : Decidable e.Fits :=
  decidable_of_iff (e.parent < 2 ^ 64 ∧ e.line < 2 ^ 64 ∧ -2 ^ 31 ≤ e.index ∧ e.index < 2 ^ 31)
    ⟨fun h => ⟨h.1, h.2.1, h.2.2⟩, fun h => ⟨h.parent, h.line, h.index⟩⟩

namespace Entry

variable {e : Entry} {under f : Forest Entry}

/-- The fields of an entry in order, each left out for its default. -/
def fields (e : Entry) (under : Forest Entry) : List (Text × Value) :=
  (if e.parent = 0 then [] else [("parent".toList, .integer e.parent)]) ++
  ((if e.line = 0 then [] else [("line".toList, .integer e.line)]) ++
  ((if e.index = 0 then [] else [("index".toList, .integer e.index)]) ++
  ((if e.keyword.isEmpty then [] else [("keyword".toList, .string e.keyword)]) ++
  ((if e.value.isEmpty then [] else [("value".toList, .string e.value)]) ++
  ((if under.isEmpty then [] else [("data".toList, .list (forestToValues under))]) ++
  ((if e.separator = false then [] else [("separator".toList, .bool true)]) ++
  ((if e.flags.isEmpty then [] else [("flags".toList, .ofTexts e.flags)]) ++ [])))))))

theorem toJson_eq (e : Entry) (under : Forest Entry) :
    e.toJson (forestToValues under) = .ofFields (e.fields under) := by
  have hseparator : (if e.separator then [("separator".toList, Value.bool true)] else []) =
      if e.separator = false then [] else [("separator".toList, .bool true)] := by
    cases e.separator <;> rfl
  cases under <;>
    simp only [toJson, fields, forestToValues, hseparator, List.append_assoc, List.append_nil,
      List.nil_append, Forest.isEmpty, Bool.false_eq_true, if_false, if_true]

theorem forall_mem_ite {α : Type} {P : α → Prop} {p : Prop} [Decidable p] {a : α} (h : P a) :
    ∀ x ∈ (if p then [] else [a]), P x := by
  split_ifs <;> simp [h]

theorem fits_toJson (he : e.Fits) (hunder : (forestToValues under).Fits) :
    (e.toJson (forestToValues under)).Fits := by
  have hparent := he.parent
  have hline := he.line
  have hindex := he.index
  rw [toJson_eq]
  refine Members.fits_ofList ?_
  simp only [fields, List.forall_mem_append]
  refine ⟨forall_mem_ite ?_, forall_mem_ite ?_, forall_mem_ite ?_, forall_mem_ite trivial,
    forall_mem_ite trivial, forall_mem_ite hunder, forall_mem_ite trivial,
    forall_mem_ite (Value.fits_ofTexts e.flags), fun _ hm => absurd hm List.not_mem_nil⟩
  all_goals
    simp only [Value.Fits]
    omega

theorem levels_toJson (hne : under.isEmpty = false) :
    (forestToValues under).levels + 2 ≤ (e.toJson (forestToValues under)).levels := by
  have hdata : ("data".toList, Value.list (forestToValues under)) ∈
      if under.isEmpty then [] else [("data".toList, Value.list (forestToValues under))] := by
    rw [hne]
    exact List.mem_cons_self
  have hmem : ("data".toList, Value.list (forestToValues under)) ∈ e.fields under := by
    simp only [fields, List.mem_append]
    exact .inr (.inr (.inr (.inr (.inr (.inl hdata)))))
  rw [toJson_eq]
  exact Nat.succ_le_succ (Members.levels_le_of_mem hmem)

/-- An entry and the entries below it are read from what is written of them. -/
theorem reads_toJson {forest : Decoder (Forest Entry)} (he : e.Fits)
    (hunder : under.isEmpty = false → Reads forest (.list (forestToValues under)) under) :
    Reads (treeDecoder forest) (e.toJson (forestToValues under)) (e, under) := by
  have hseparator : ¬ e.separator = false → Reads bool (.bool true) e.separator := by
    intro h
    rw [Bool.not_eq_false] at h
    rw [h]
    exact reads_bool true
  have hindex := he.index
  have hnames : (["parent", "line", "index", "keyword", "value", "data", "separator",
      "flags"].map String.toList).Nodup := by decide
  rw [toJson_eq]
  refine reads_record hnames ?_
  refine .default (fun _ => reads_nat64 he.parent) id rfl ?_
  refine .default (fun _ => reads_nat64 he.line) id rfl ?_
  refine .default (fun _ => reads_int32 (by omega)) id rfl ?_
  refine .default (fun _ => reads_text e.keyword) List.isEmpty_iff.mp rfl ?_
  refine .default (fun _ => reads_text e.value) List.isEmpty_iff.mp rfl ?_
  refine .default (fun h => hunder (by simpa using h)) Forest.eq_nil_of_isEmpty rfl ?_
  refine .default hseparator id rfl ?_
  exact .default (fun _ => reads_texts reads_text e.flags) List.isEmpty_iff.mp rfl .nil

/-! ### Forests -/

/-- Reads a forest of entries, given a reader for those below. -/
def forestStep (forest : Decoder (Forest Entry)) : Decoder (Forest Entry) := fun depth s =>
  (Decoder.list (treeDecoder forest) depth s).map .ofList

theorem reads_forestStep {forest : Decoder (Forest Entry)}
    (h : ReadsAll (treeDecoder forest) (forestToValues f) f.trees) :
    Reads (forestStep forest) (.list (forestToValues f)) f := by
  intro depth hd
  rw [forestStep, reads_list h depth hd, Except.map, Forest.ofList_trees]

theorem fits_forestToValues (hf : ∀ e ∈ f.flatten, e.Fits) : (forestToValues f).Fits := by
  induction f with
  | nil => trivial
  | cons e under rest ihunder ihrest =>
    simp only [Forest.flatten, List.cons_append, List.mem_cons, List.mem_append] at hf
    exact ⟨fits_toJson (hf e (.inl rfl)) (ihunder fun e' he => hf e' (.inr (.inl he))),
      ihrest fun e' he => hf e' (.inr (.inr he))⟩

/-- A reader unfolded often enough for the nesting reads every tree of a forest. -/
theorem readsAll_forest (hf : ∀ e ∈ f.flatten, e.Fits) {n : Nat}
    (hn : (forestToValues f).levels ≤ n) :
    ReadsAll (treeDecoder (nestedWithin forestStep n)) (forestToValues f) f.trees := by
  induction f generalizing n with
  | nil => exact .nil
  | cons e under rest ihunder ihrest =>
    simp only [Forest.flatten, List.cons_append, List.mem_cons, List.mem_append] at hf
    rw [forestToValues, Values.levels] at hn
    refine .cons (reads_toJson (hf e (.inl rfl)) fun hne => ?_)
      (ihrest (fun e' he => hf e' (.inr (.inr he))) (by omega))
    -- The entries below take two levels: that of the entry and that of their list.
    have hlevels := levels_toJson (e := e) hne
    obtain ⟨m, rfl⟩ : ∃ m, n = m + 1 := Nat.exists_eq_add_of_le' (by omega)
    exact reads_forestStep (ihunder (fun e' he => hf e' (.inr (.inl he))) (by omega))

/-- **Forests** are read from what is written of them. -/
theorem reads_forest (hf : ∀ e ∈ f.flatten, e.Fits) :
    Reads forestDecoder (.list (forestToValues f)) f := by
  intro depth hd
  exact reads_forestStep (readsAll_forest hf (Nat.le_of_succ_le hd)) depth hd

end Entry

/-! ### Documents and indexes -/

namespace Document

/-- The numbers of every entry fit. -/
def Fits (d : Document) : Prop := ∀ e ∈ d.configuration.flatten ++ d.data.flatten, e.Fits

instance (d : Document) : Decidable d.Fits :=
  inferInstanceAs (Decidable (∀ e ∈ d.configuration.flatten ++ d.data.flatten, e.Fits))

variable {d : Document}

/-- The fields of a document in order; the origin is always written. -/
def fields (d : Document) : List (Text × Value) :=
  ("file".toList, d.origin.toJson) ::
    ((if d.configuration.isEmpty then []
      else [("configuration".toList, .list (Entry.forestToValues d.configuration))]) ++
    ((if d.data.isEmpty then [] else [("data".toList, .list (Entry.forestToValues d.data))]) ++
    []))

theorem toJson_eq (d : Document) : d.toJson = .ofFields d.fields := by
  rw [toJson, fields, forestField, forestField, List.append_nil, List.append_assoc,
    List.singleton_append]

theorem Fits.configuration (h : d.Fits) : ∀ e ∈ d.configuration.flatten, e.Fits := fun e he =>
  h e (List.mem_append_left _ he)

theorem Fits.data (h : d.Fits) : ∀ e ∈ d.data.flatten, e.Fits := fun e he =>
  h e (List.mem_append_right _ he)

theorem Fits.toJson (h : d.Fits) : d.toJson.Fits := by
  rw [toJson_eq]
  refine Members.fits_ofList ?_
  simp only [fields, List.forall_mem_cons, List.forall_mem_append]
  exact ⟨d.origin.fits_toJson,
    Entry.forall_mem_ite (Entry.fits_forestToValues h.configuration),
    Entry.forall_mem_ite (Entry.fits_forestToValues h.data), fun _ hm => absurd hm List.not_mem_nil⟩

theorem reads_toJson (h : d.Fits) : Reads decoder d.toJson d := by
  rw [toJson_eq]
  refine reads_record (by decide) ?_
  refine .optional d.origin.reads_toJson ?_
  refine .default (fun _ => Entry.reads_forest h.configuration) Forest.eq_nil_of_isEmpty rfl ?_
  exact .default (fun _ => Entry.reads_forest h.data) Forest.eq_nil_of_isEmpty rfl .nil

end Document

namespace Index

theorem fits_toJson (i : Index) : i.toJson.Fits := ⟨Value.fits_ofTexts i.files, trivial⟩

theorem levels_toJson (i : Index) : i.toJson.levels = 2 := by
  have htexts := Value.levels_ofTexts i.files
  rw [toJson, Value.ofFields, Members.ofList, Members.ofList, Value.levels, Members.levels,
    Members.levels, htexts]
  rfl

theorem reads_toJson (i : Index) : Reads decoder i.toJson i :=
  reads_record (by decide) (.optional (reads_texts (reads_textAs _) i.files) .nil)

end Index

/-- **Documents come back from their text**: a document is read from its text in each of the three
layouts, if its numbers fit and its text nests fewer than 128 lists and objects. An index always
is. -/
theorem Document.run_toJson (l : Layout) (hl : l ∈ [Layout.compact, .spaces, .tabs]) :
    (∀ d : Document, d.Fits → d.toJson.levels < 128 →
      decoder.run (d.toJson.write l) = .ok d) ∧
    ∀ i : Index, Index.decoder.run (i.toJson.write l) = .ok i := by
  have hspaced : l.Spaced := Layout.spaced_of_mem hl
  refine ⟨fun d hfits hlevels => ?_, fun i => ?_⟩
  · exact Decoder.run_write hspaced hfits.toJson (Nat.le_of_lt_succ hlevels) (reads_toJson hfits)
  · exact Decoder.run_write hspaced i.fits_toJson (i.levels_toJson ▸ by decide)
      i.reads_toJson

/-- Six levels, with a negative index, escapes, marks and a separator. -/
theorem Document.run_toJson_nested :
    let inner : Entry :=
      { parent := 2, line := 3, index := -4, value := "\"\\\t\u0001\u00fc".toList
        separator := true, flags := ["x".toList, []] }
    let d : Document :=
      { origin := { name := "a".toList, extension := "c".toList }
        configuration := .cons { line := 1, keyword := "version".toList } .nil .nil
        data := .cons { line := 2, keyword := "a".toList } (.cons inner .nil .nil) .nil }
    Layout.tabs ∈ [Layout.compact, .spaces, .tabs] ∧ d.Fits ∧ d.toJson.levels = 6 ∧
      decoder.run (d.toJson.write .tabs) = .ok d := by
  intro inner d
  have hl : Layout.tabs ∈ [Layout.compact, .spaces, .tabs] := by decide
  have hfits : d.Fits := by decide +kernel
  have hlevels : d.toJson.levels = 6 := by decide +kernel
  exact ⟨hl, hfits, hlevels, (run_toJson .tabs hl).1 d hfits (hlevels ▸ by decide)⟩

end Marginalia
