import Marginalia.Proofs.FileStore.Growth
import Marginalia.Proofs.Path.Below
import Marginalia.Proofs.Path.Documents
import Marginalia.Run

/-!
# What a run leaves in the store

Emitting a file writes to the place of its document, if it writes at all (`grows_emit`), and then
the document can be read there (`emit_ok`). Sources with different documents have them at different
places, so what is emitted later does not touch a document that has been written
(`read_of_mem_emitAll`).

The index goes to the same directory as the documents. One source name leads to its path: the
document of `emits` is where the index goes, and the index is written last. All other documents that
a report tells of are still there at the end (`read_written_runFiles`).
-/

namespace Marginalia

namespace Path

variable {here : Location} {output source source' : Path}

/-- Documents at the same place are the same. -/
theorem documentPath_eq_of_place
    (h : (documentPath output source).place here = (documentPath output source').place here) :
    documentPath output source = documentPath output source' := by
  have hnames := names_eq_of_place output (components_documentPath output source)
    (components_documentPath output source') h
  rw [documentPath_eq, documentPath_eq, hnames]

end Path

namespace FileStore

variable {s s' : FileStore} {timestamp : Text} {task : Task} {grammars : Grammars}
  {output path p : Path} {files : List Path} {l : Location} {o : Outcome}

/-! ### One file -/

theorem grows_writeJson (s : FileStore) (v : Json.Value) (path : Path) :
    Grows (· = path.place s.here) s (s.writeJson v path).1 := by
  unfold writeJson
  have hdirs := grows_createDirectories (· = path.place s.here) s ((Path.parent? path).getD [])
  split
  · rename_i heq
    rwa [heq] at hdirs
  · rename_i s₁ heq
    rw [heq] at hdirs
    split
    · exact hdirs
    · rename_i hwrite
      have hgrows := (write_ok hwrite).1
      rw [hdirs.here] at hgrows
      exact hdirs.trans hgrows

theorem writeJson_ok {v : Json.Value} (h : s.writeJson v path = (s', .ok ())) :
    s'.read path = .ok (Utf8.encode (v.write .tabs)) := by
  unfold writeJson at h
  split at h
  · cases (Prod.mk.inj h).2
  · split at h
    · cases (Prod.mk.inj h).2
    · rename_i hwrite
      obtain rfl := (Prod.mk.inj h).1
      exact (write_ok hwrite).2

/-- **Emitting** changes nothing but the document of the file, and takes nothing away. -/
theorem grows_emit (s : FileStore) (timestamp : Text) (task : Task) (grammars : Grammars)
    (output path : Path) :
    Grows (· = (Path.documentPath output path).place s.here) s
      (s.emit timestamp task grammars output path).1 := by
  unfold emit
  split
  · exact Grows.refl _ s
  · rename_i d _
    have hgrows := grows_writeJson s d.toJson (Path.documentPath output path)
    dsimp only
    split
    · rename_i heq
      rwa [heq] at hgrows
    · rename_i heq
      rwa [heq] at hgrows

/-- The path told after emitting is that of the document, which is there. -/
theorem emit_ok (h : (s.emit timestamp task grammars output path).2 = .ok p) :
    ∃ d, s.document timestamp task grammars path = .ok d ∧ p = Path.documentPath output path ∧
      (s.emit timestamp task grammars output path).1.read p =
        .ok (Utf8.encode (d.toJson.write .tabs)) := by
  unfold emit at h ⊢
  cases hd : s.document timestamp task grammars path with
  | error e =>
    rw [hd] at h
    cases h
  | ok d =>
    rw [hd] at h
    refine ⟨d, rfl, ?_⟩
    dsimp only at h ⊢
    split at h
    · cases h
    · rename_i hwrite
      obtain rfl := Except.ok.inj h
      exact ⟨rfl, writeJson_ok hwrite⟩

/-! ### All files -/

theorem grows_emitAll (s : FileStore) (timestamp : Text) (task : Task) (grammars : Grammars)
    (output : Path) (files : List Path) :
    Grows (fun l => ∃ f ∈ files, l = (Path.documentPath output f).place s.here) s
      (s.emitAll timestamp task grammars output files).1 := by
  induction files generalizing s with
  | nil => exact Grows.refl _ s
  | cons path paths ih =>
    have hfirst := grows_emit s timestamp task grammars output path
    have hrest := ih (s.emit timestamp task grammars output path).1
    rw [hfirst.here] at hrest
    exact (hfirst.mono fun l hl => ⟨path, List.mem_cons_self, hl⟩).trans
      (hrest.mono fun l ⟨f, hf, hl⟩ => ⟨f, List.mem_cons_of_mem _ hf, hl⟩)

/-- **Documents stay**: what was written for a file can be read after all files, if no two files
have the same document. -/
theorem read_of_mem_emitAll (hnodup : (files.map (Path.documentPath output)).Nodup)
    (ho : o ∈ (s.emitAll timestamp task grammars output files).2) (hp : o.result = .ok p) :
    ∃ before after d, files = before ++ o.source :: after ∧
      p = Path.documentPath output o.source ∧
      (s.emitAll timestamp task grammars output before).1.document timestamp task grammars
        o.source = .ok d ∧
      (s.emitAll timestamp task grammars output files).1.read p =
        .ok (Utf8.encode (d.toJson.write .tabs)) := by
  induction files generalizing s with
  | nil => cases ho
  | cons path paths ih =>
    rw [List.map_cons, List.nodup_cons] at hnodup
    obtain ⟨hfresh, hnodup⟩ := hnodup
    rcases List.mem_cons.mp ho with rfl | ho
    · obtain ⟨d, hd, rfl, hread⟩ := emit_ok hp
      refine ⟨[], paths, d, rfl, rfl, hd, ?_⟩
      -- the documents of the other files are at other places
      refine read_of_grows (grows_emitAll _ timestamp task grammars output paths) ?_ hread
      rintro ⟨f, hf, hplace⟩
      exact hfresh (List.mem_map.mpr ⟨f, hf, (Path.documentPath_eq_of_place hplace).symm⟩)
    · obtain ⟨before, after, d, hsplit, hpath, hd, hread⟩ := ih hnodup ho
      exact ⟨path :: before, after, d, by rw [hsplit, List.cons_append], hpath, hd, hread⟩

/-! ### The index -/

theorem components_index (output : Path) :
    Path.components (Path.join output indexName) =
      Path.components output ++ [indexName].map .name := by
  have hname : ∀ n ∈ [indexName], Path.IsName n := by
    rw [List.forall_mem_singleton]
    exact Path.isName_of_two_lt_length (by decide) (by decide)
  have hcomponents := Path.components_names hname (List.cons_ne_nil _ _)
  have hfront := Path.front_names hname (List.cons_ne_nil _ _)
  rw [Text.join_singleton] at hcomponents hfront
  rw [Path.components_join output hfront, hcomponents]

/-- Only the source `emits` has the index for a document. -/
theorem withSuffix_eq_index_iff {ns : List Text} :
    Path.withSuffix ns = [indexName] ↔ ns = ["emits".toList] := by
  have hindex : indexName = "emits".toList ++ Path.documentSuffix := by decide
  match ns with
  | [] => decide
  | [n] =>
    rw [Path.withSuffix, List.cons.injEq, List.cons.injEq, hindex, List.append_cancel_right_eq]
  | n :: m :: ns => simp [Path.withSuffix, Path.withSuffix_ne_nil]

theorem withSuffix_below_index_iff {ns : List Text} :
    (∃ ms, ms ≠ [] ∧ Path.withSuffix ns = indexName :: ms) ↔
      ∃ n ms, ns = indexName :: n :: ms := by
  match ns with
  | [] | [n] => simp [Path.withSuffix, eq_comm]
  | n :: m :: ns => simp [Path.withSuffix, Path.withSuffix_ne_nil]

theorem documentPath_eq_index_iff (output source : Path) :
    Path.documentPath output source = Path.join output indexName ↔
      Path.resolve (Path.components source) = ["emits".toList] := by
  rw [← withSuffix_eq_index_iff, ← Path.documentNames]
  constructor
  · intro h
    have hcomponents := congrArg Path.components h
    rw [Path.components_documentPath, components_index, List.append_cancel_left_eq] at hcomponents
    exact List.map_injective_iff.mpr (fun _ _ => Path.Component.name.inj) hcomponents
  · intro h
    rw [Path.documentPath_eq, h, Text.join_singleton]

/-- Below the index are the documents of sources in a directory of its name. -/
theorem below_index_iff (output source : Path) :
    Path.Below (Path.join output indexName) (Path.documentPath output source) ↔
      ∃ n ns, Path.resolve (Path.components source) = indexName :: n :: ns := by
  have hcomponents : ∀ ns : List Text, Path.components (Path.documentPath output source) =
      Path.components (Path.join output indexName) ++ ns.map .name ↔
        Path.documentNames source = indexName :: ns := by
    intro ns
    rw [Path.components_documentPath, components_index, List.append_assoc,
      List.append_cancel_left_eq, ← List.map_append, List.singleton_append]
    exact (List.map_injective_iff.mpr fun _ _ => Path.Component.name.inj).eq_iff
  rw [← withSuffix_below_index_iff, ← Path.documentNames]
  constructor
  · rintro ⟨ns, hne, -, hbelow⟩
    exact ⟨ns, hne, (hcomponents ns).mp hbelow⟩
  · rintro ⟨ns, hne, hnames⟩
    refine ⟨ns, hne, fun n hn => ?_, (hcomponents ns).mpr hnames⟩
    refine Path.isName_of_mem_documentNames source n ?_
    rw [hnames]
    exact List.mem_cons_of_mem _ hn

theorem writeIndex_ok {i : Index} (h : s.writeIndex i output = (s', .ok p)) :
    p = Path.join output indexName ∧ s'.read p = .ok (Utf8.encode (i.toJson.write .tabs)) := by
  unfold writeIndex at h
  dsimp only at h
  split at h
  · cases (Prod.mk.inj h).2
  · rename_i hwrite
    obtain rfl := (Prod.mk.inj h).1
    obtain rfl := Except.ok.inj (Prod.mk.inj h).2
    exact ⟨rfl, writeJson_ok hwrite⟩

theorem grows_writeIndex (s : FileStore) (i : Index) (output : Path) :
    Grows (· = (Path.join output indexName).place s.here) s (s.writeIndex i output).1 := by
  have hgrows := grows_writeJson s i.toJson (Path.join output indexName)
  unfold writeIndex
  dsimp only
  split
  · rename_i heq
    rwa [heq] at hgrows
  · rename_i heq
    rwa [heq] at hgrows

/-- A document at the place of the index is the index. -/
theorem documentPath_eq_index_of_place {source : Path} {here : Location}
    (h : (Path.documentPath output source).place here = (Path.join output indexName).place here) :
    Path.documentPath output source = Path.join output indexName := by
  have hnames := Path.names_eq_of_place output (Path.components_documentPath output source)
    (components_index output) h
  rw [Path.documentPath_eq, hnames, Text.join_singleton]

/-! ### Runs -/

/-- A run ends in one of four ways: the directory cannot be cleared, there is no document, the index
cannot be written, or it is written. -/
theorem runFiles_cases (s : FileStore) (timestamp : Text) (task : Task) (grammars : Grammars)
    (output : Path) (clean : Bool) (files : List Path) :
    let run := s.runFiles timestamp task grammars output clean files
    let cleared := s.clear clean output
    let emitted := cleared.1.emitAll timestamp task grammars output files
    let report : Report := { task := task.name, output, outcomes := emitted.2 }
    let last := emitted.1.writeIndex ⟨report.written⟩ output
    (∃ e, run = (cleared.1, .error e)) ∨
      (report.written = [] ∧ run = (emitted.1, .ok report)) ∨
      (∃ e, run = (last.1, .error e)) ∨
      ∃ path, last.2 = .ok path ∧ run = (last.1, .ok { report with index := some path }) := by
  intro run cleared emitted report last
  have hclear : s.clear clean output = (cleared.1, cleared.2) := rfl
  have hlast : emitted.1.writeIndex ⟨report.written⟩ output = (last.1, last.2) := rfl
  cases hc : cleared.2 with
  | error e =>
    refine Or.inl ⟨e, ?_⟩
    simp only [run, runFiles, hclear, hc]
  | ok _ =>
    by_cases hnone : report.written.isEmpty = true
    · refine Or.inr (Or.inl ⟨List.isEmpty_iff.mp hnone, ?_⟩)
      simp only [run, runFiles, hclear, hc]
      exact if_pos hnone
    · cases hl : last.2 with
      | error e =>
        refine Or.inr (Or.inr (Or.inl ⟨e, ?_⟩))
        simp only [run, runFiles, hclear, hc]
        refine (if_neg hnone).trans ?_
        rw [hlast, hl]
      | ok path =>
        refine Or.inr (Or.inr (Or.inr ⟨path, rfl, ?_⟩))
        simp only [run, runFiles, hclear, hc]
        refine (if_neg hnone).trans ?_
        rw [hlast, hl]

/-- After clearing, a run takes nothing away. -/
theorem grows_runFiles (s : FileStore) (timestamp : Text) (task : Task) (grammars : Grammars)
    (output : Path) (clean : Bool) (files : List Path) :
    Grows (fun _ => True) (s.clear clean output).1
      (s.runFiles timestamp task grammars output clean files).1 := by
  have hdocuments := (grows_emitAll (s.clear clean output).1 timestamp task grammars output
    files).mono (G := fun _ => True) fun _ _ => trivial
  have hindex := fun paths => (grows_writeIndex ((s.clear clean output).1.emitAll timestamp task
    grammars output files).1 ⟨paths⟩ output).mono (G := fun _ => True) fun _ _ => trivial
  rcases s.runFiles_cases timestamp task grammars output clean files with
    ⟨e, hrun⟩ | ⟨-, hrun⟩ | ⟨e, hrun⟩ | ⟨path, -, hrun⟩
  · rw [hrun]
    exact Grows.refl _ _
  · rw [hrun]
    exact hdocuments
  · rw [hrun]
    exact hdocuments.trans (hindex _)
  · rw [hrun]
    exact hdocuments.trans (hindex _)

theorem mem_written_iff {report : Report} :
    p ∈ report.written ↔ ∃ o ∈ report.outcomes, o.result = .ok p := by
  rw [Report.written, List.mem_filterMap]
  refine exists_congr fun o => and_congr_right fun _ => ?_
  cases o.result <;> simp [Except.toOption]

/-- **Documents stay in place**: the document of `emits` goes where the index goes, those of
`emits.json/…` go below that, and no others do. After a run over files with different documents,
each path that the index lists holds the document that its file had when it was emitted; only the
path of the index holds the index. -/
theorem read_written_runFiles (s : FileStore) (timestamp : Text) (task : Task)
    (grammars : Grammars) (output : Path) (clean : Bool) (files : List Path) :
    let index := Path.join output indexName
    (∀ source, (Path.documentPath output source = index ↔
        Path.resolve (Path.components source) = ["emits".toList]) ∧
      (Path.Below index (Path.documentPath output source) ↔
        ∃ n ns, Path.resolve (Path.components source) = indexName :: n :: ns)) ∧
    ((files.map (Path.documentPath output)).Nodup →
      let r := s.runFiles timestamp task grammars output clean files
      ∀ report, r.2 = .ok report → ∀ p ∈ report.written, ∃ before source after d,
        files = before ++ source :: after ∧ p = Path.documentPath output source ∧
          ((s.clear clean output).1.emitAll timestamp task grammars output before).1.document
            timestamp task grammars source = .ok d ∧
          r.1.read p = .ok (Utf8.encode
            ((if p = index then Index.toJson ⟨report.written⟩ else d.toJson).write .tabs))) := by
  intro index
  refine ⟨fun source => ⟨documentPath_eq_index_iff output source,
    below_index_iff output source⟩, ?_⟩
  intro hnodup r report hreport p hp
  rcases s.runFiles_cases timestamp task grammars output clean files with
    ⟨e, hrun⟩ | ⟨hnone, hrun⟩ | ⟨e, hrun⟩ | ⟨path, hlast, hrun⟩
  · rw [show r = _ from hrun] at hreport
    cases hreport
  · rw [show r = _ from hrun] at hreport
    rw [← Except.ok.inj hreport, hnone] at hp
    cases hp
  · rw [show r = _ from hrun] at hreport
    cases hreport
  · rw [show r = _ from hrun] at hreport
    obtain rfl := Except.ok.inj hreport
    obtain ⟨o, ho, hresult⟩ := mem_written_iff.mp hp
    obtain ⟨before, after, d, hsplit, rfl, hd, hread⟩ := read_of_mem_emitAll hnodup ho hresult
    refine ⟨before, o.source, after, d, hsplit, rfl, hd, ?_⟩
    rw [show r.1 = _ from congrArg Prod.fst hrun]
    split_ifs with hpath
    · obtain ⟨rfl, hindex⟩ := writeIndex_ok (Prod.ext rfl hlast)
      rw [hpath]
      exact hindex
    · exact read_of_grows (grows_writeIndex _ _ output)
        (fun hindex => hpath (documentPath_eq_index_of_place hindex)) hread

/-- The output directory is in the root and not empty, and a file that is not in the working
directory is emitted beside `emits`. -/
theorem read_written_runFiles_beside_emits :
    let s : FileStore :=
      { items :=
          [(Location.work, .directory),
            (["work".toList, "emits".toList], .file (Utf8.encode "// .title Tool\n".toList)),
            (["src".toList], .directory),
            (["src".toList, "a.c".toList], .file (Utf8.encode "// .title A\n".toList)),
            (["out".toList], .directory),
            (["out".toList, "emits.json".toList], .file [])] }
    let task : Task := { vocabulary := { inline := "//".toList } }
    let files := ["../src/a.c".toList, "emits".toList]
    let output := "/out".toList
    let r := s.runFiles "T".toList task [] output true files
    (files.map (Path.documentPath output)).Nodup ∧ ∃ report, r.2 = .ok report ∧
      report.written = ["/out/src/a.c.json".toList, "/out/emits.json".toList] ∧
      ∀ p ∈ report.written, ∃ before source after d,
        files = before ++ source :: after ∧ p = Path.documentPath output source ∧
          ((s.clear true output).1.emitAll "T".toList task [] output before).1.document
            "T".toList task [] source = .ok d ∧
          r.1.read p = .ok (Utf8.encode
            ((if p = Path.join output indexName then Index.toJson ⟨report.written⟩
              else d.toJson).write .tabs)) := by
  intro s task files output r
  have hnodup : (files.map (Path.documentPath output)).Nodup := by decide +kernel
  have hwritten : r.2.toOption.map Report.written =
      some ["/out/src/a.c.json".toList, "/out/emits.json".toList] := by decide +kernel
  cases hr : r.2 with
  | error e =>
    rw [hr] at hwritten
    cases hwritten
  | ok report =>
    rw [hr] at hwritten
    exact ⟨hnodup, report, rfl, Option.some.inj hwritten,
      (read_written_runFiles s "T".toList task [] output true files).2 hnodup report hr⟩

/-- The document of `emits` is listed by the index that has taken its place. -/
theorem runFiles_index_over_document :
    let s : FileStore :=
      { items :=
          [(Location.work, .directory),
            (["work".toList, "emits".toList], .file (Utf8.encode "// .title Tool\n".toList)),
            (["work".toList, "a.c".toList], .file (Utf8.encode "// .title A\n".toList))] }
    let task : Task := { vocabulary := { inline := "//".toList } }
    let files := ["emits".toList, "a.c".toList]
    let r := s.runFiles "T".toList task [] "out".toList true files
    let p := Path.documentPath "out".toList "emits".toList
    let d : Document :=
      { origin := { directory := ".".toList, name := "emits".toList, timestamp := "T".toList }
        data := .cons { line := 1, keyword := "title".toList, value := "Tool".toList } .nil .nil }
    (files.map (Path.documentPath "out".toList)).Nodup ∧
      Path.fileName? "emits".toList = some "emits".toList ∧
      p = Path.join "out".toList indexName ∧
      r.2.toOption.map Report.written = some [p, "out/a.c.json".toList] ∧
      s.document "T".toList task [] "emits".toList = .ok d ∧
      r.1.read p ≠ .ok (Utf8.encode (d.toJson.write .tabs)) := by
  decide +kernel

end FileStore

end Marginalia
