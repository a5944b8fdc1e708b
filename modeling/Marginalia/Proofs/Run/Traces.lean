import Marginalia.Proofs.Run.Order

/-!
# What emitting a file leaves

Emitting a file leaves its document and the directories above it, and nothing else. If no document
is written, then mostly nothing at all is left: a file or a directory that is in the way is met
before the first directory is made. But a name or a path that is too long may be met later, and the
directories made until then stay (`emit_leaves_directories`). `emit_traces` says when this happens.
-/

namespace Marginalia.FileStore

variable {s s' : FileStore} {p : Path} {l t : Location} {α : Type} {d : Deed} {r : Except Failure α}
  {e : Failure}

namespace Deed

/-- Nothing has changed at a location, or a directory above the document was made there, or the
document was written there. -/
theorem Fits.cases (h : d.Fits s p r) (hdone : d.Done s s') (l : Location) :
    s'.get? l = s.get? l ∨
      (l ∈ d.directories ∧ s.get? l = none ∧ s'.get? l = some .directory ∧
        l <+: p.place s.here ∧ l ≠ p.place s.here) ∨
      l = p.place s.here ∧ ∃ a, r = .ok a := by
  cases hlaid : d.laid l with
  | none =>
    rw [hdone.item, hlaid]
    exact Or.inl rfl
  | some i =>
    rcases laid_eq_some hlaid with ⟨hl, rfl⟩ | ⟨c, hfile, -⟩
    · have hdir : s'.get? l = some .directory := by
        rw [hdone.item, hlaid]
        rfl
      obtain ⟨habove, hnone | hthere⟩ := h.directories l hl
      · exact Or.inr (Or.inl ⟨hl, hnone, hdir, habove⟩)
      · exact Or.inl (hdir.trans hthere.symm)
    · obtain ⟨hplace, -, hok⟩ := h.file _ hfile
      exact Or.inr (Or.inr ⟨hplace, hok⟩)

theorem Fits.changed_iff (h : d.Fits s p r) (hdone : d.Done s s') (hr : r = .error e) :
    (∃ l, s'.get? l ≠ s.get? l) ↔
      e = .write p .nameTooLong ∧ s.TooLong p ∧ s.MissesDirectory p := by
  rw [← h.trace e hr]
  constructor
  · rintro ⟨l, hne⟩
    rcases h.cases hdone l with heq | ⟨hl, hnone, -⟩ | ⟨-, a, ha⟩
    · exact absurd heq hne
    · exact ⟨l, hl, hnone⟩
    · rw [hr] at ha
      cases ha
  · rintro ⟨l, hl, hnone⟩
    refine ⟨l, ?_⟩
    rw [hdone.item, laid_of_mem hl, hnone]
    simp

end Deed

/-- **Traces**: emitting a file leaves its document and makes the directories above it that are
missing; all else is as before. A failure leaves all as before, but for one case: the name or path
of the document is too long, and directories above it are missing. Of these some have been made
then. -/
theorem emit_traces (s : FileStore) (hs : Rooted s) (timestamp : Text) (task : Task)
    (grammars : Grammars) (output source : Path) (hdots : .parent ∉ Path.components output) :
    let emitted := s.emit timestamp task grammars output source
    let p := Path.documentPath output source
    let t := p.place s.here
    (∀ q, emitted.2 = .ok q → q = p ∧ ∃ document,
        s.document timestamp task grammars source = .ok document ∧
        emitted.1.get? t = some (.file (Utf8.encode (document.toJson.write .tabs))) ∧
        (∀ l, l <+: t → l ≠ t → emitted.1.get? l = some .directory) ∧
        ∀ l, l ≠ t → emitted.1.get? l = s.get? l ∨ l <+: t ∧ s.get? l = none) ∧
      ∀ e, emitted.2 = .error e →
        ((∃ l, emitted.1.get? l ≠ s.get? l) ↔
          e = .write p .nameTooLong ∧ s.TooLong p ∧ s.MissesDirectory p) ∧
        ∀ l, emitted.1.get? l = s.get? l ∨
          s.get? l = none ∧ emitted.1.get? l = some .directory ∧ l <+: t ∧ l ≠ t := by
  intro emitted p t
  obtain ⟨d, r, hfits, hemit⟩ := exists_deed_emit hs hdots timestamp task grammars source
  have hsame := surroundings_refl s output source
  obtain ⟨hr, hdone⟩ := hemit s hs hsame
  refine ⟨fun q hq => ?_, fun e he => ⟨hfits.changed_iff hdone (hr.symm.trans he), fun l => ?_⟩⟩
  · obtain ⟨document, hdocument, rfl, hread⟩ := emit_ok hq
    have hfile := get?_of_read hread
    rw [hdone.here] at hfile
    have hrooted : Rooted emitted.1 := hfits.rooted hs hsame.undisturbed hdone
    refine ⟨rfl, document, hdocument, hfile, fun l hlt hne => ?_, fun l hne => ?_⟩
    · exact hrooted.get?_of_isPrefix hlt hne (hfile ▸ Option.some_ne_none _)
    · rcases hfits.cases hdone l with heq | ⟨-, hnone, -, hlt, -⟩ | ⟨hplace, -⟩
      · exact Or.inl heq
      · exact Or.inr ⟨hlt, hnone⟩
      · exact absurd hplace hne
  · rcases hfits.cases hdone l with heq | ⟨-, hnone, hdir, habove⟩ | ⟨-, a, ha⟩
    · exact Or.inl heq
    · exact Or.inr ⟨hnone, hdir, habove⟩
    · rw [← hr, he] at ha
      cases ha

/-- The document goes to a directory in the root that is still to be made, and then to one that
would be below a file. -/
theorem emit_traces_below_file :
    let s : FileStore :=
      { items :=
          [(Location.work, .directory), (["work".toList, "src".toList], .directory),
            (["work".toList, "src".toList, "a.c".toList],
              .file (Utf8.encode "// .title A\n".toList)),
            (["work".toList, "out".toList], .file [])] }
    let task : Task := { vocabulary := { inline := "//".toList } }
    let made := s.emit "T".toList task [] "/emits/docs".toList "src/a.c".toList
    let failed := s.emit "T".toList task [] "out/docs".toList "src/a.c".toList
    let t := ["emits", "docs", "src", "a.c.json"].map String.toList
    Rooted s ∧ .parent ∉ Path.components "/emits/docs".toList ∧
      .parent ∉ Path.components "out/docs".toList ∧
      made.2 = .ok "/emits/docs/src/a.c.json".toList ∧
      (∀ l, l <+: t → l ≠ t → made.1.get? l = some .directory) ∧
      (∀ l, l ≠ t → made.1.get? l = s.get? l ∨ l <+: t ∧ s.get? l = none) ∧
      failed.2 = .error (.write "out/docs/src/a.c.json".toList .notDirectory) ∧
      ∀ l, failed.1.get? l = s.get? l := by
  intro s task made failed t
  have hs : Rooted s := rooted_of_items (by decide +kernel) (by decide +kernel)
  have hdots : .parent ∉ Path.components "/emits/docs".toList := by decide +kernel
  have hdots' : .parent ∉ Path.components "out/docs".toList := by decide +kernel
  have hok : made.2 = .ok "/emits/docs/src/a.c.json".toList := by decide +kernel
  have herror : failed.2 = .error (.write "out/docs/src/a.c.json".toList .notDirectory) := by
    decide +kernel
  have hmade := (emit_traces s hs "T".toList task [] "/emits/docs".toList "src/a.c".toList hdots).1
  have hfailed := (emit_traces s hs "T".toList task [] "out/docs".toList "src/a.c".toList hdots').2
  have ht : (Path.documentPath "/emits/docs".toList "src/a.c".toList).place s.here = t := by
    decide +kernel
  rw [ht] at hmade
  obtain ⟨-, document, -, -, habove, hbeside⟩ := hmade _ hok
  refine ⟨hs, hdots, hdots', hok, habove, hbeside, herror, fun l => ?_⟩
  by_contra hne
  have hlong := ((hfailed _ herror).1.mp ⟨l, hne⟩).1
  cases hlong

/-- The name of the file is just short enough, and with the suffix it is too long; the directories
for the document are there nevertheless. -/
theorem emit_leaves_directories :
    let name := List.replicate 250 'a' ++ ".c".toList
    let source := "src/".toList ++ name
    let s : FileStore :=
      { items :=
          [(Location.work, .directory), (["work".toList, "src".toList], .directory),
            (["work".toList, "src".toList, name], .file (Utf8.encode "// .title A\n".toList))] }
    let task : Task := { vocabulary := { inline := "//".toList } }
    let emitted := s.emit "T".toList task [] "emits/docs".toList source
    let p := Path.documentPath "emits/docs".toList source
    Rooted s ∧ .parent ∉ Path.components "emits/docs".toList ∧
      (s.document "T".toList task [] source).isOk ∧
      emitted.2 = .error (.write p .nameTooLong) ∧
      s.get? ["work".toList, "emits".toList] = none ∧
      [["work", "emits"], ["work", "emits", "docs"], ["work", "emits", "docs", "src"]].map
          (fun l => emitted.1.get? (l.map String.toList)) =
        List.replicate 3 (some .directory) := by
  exact ⟨rooted_of_items (by decide +kernel) (by decide +kernel), by decide +kernel,
    by decide +kernel, by decide +kernel, by decide +kernel, by decide +kernel⟩

end Marginalia.FileStore
