import Marginalia.Proofs.Run.Deeds
import Mathlib.Data.List.Nodup

/-!
# The order of the files

The files of a batch may be emitted in any order (`emitAll_order`). What comes of each file is what
would come of it alone, and the store that is left is the same, when the files keep apart
(`Apart`): their documents are different and none is a directory for another one, no file is in the
output directory, and no file is found by way of what is still to be made for another one.

The proof tells what has been done so far by the deeds of the files (`After`). None of them disturbs
what another file depends on (`After.surroundings`), and where two deeds put something at the same
location, it is the same directory (`Apart.laid_unique`).
-/

namespace Marginalia.FileStore

variable {s s' s₁ s₂ : FileStore} {timestamp : Text} {task : Task} {grammars : Grammars}
  {output f g : Path} {files done rest : List Path} {l t u : Location} {i j : Item}
  {d : Path → Deed} {r : Path → Except Failure Path}

/-- What keeps the files of a batch apart. -/
structure Apart (s : FileStore) (output : Path) (files : List Path) : Prop where
  /-- There are no two dots in the path of the output directory. -/
  dots : .parent ∉ output.components
  /-- Different files have different documents. -/
  nodup : (files.map (Path.documentPath output)).Nodup
  /-- No document is a directory for another one. -/
  below : ∀ f ∈ files, ∀ g ∈ files,
    ¬ Path.Below (Path.documentPath output f) (Path.documentPath output g)
  /-- No file is inside the output directory. -/
  outside : ∀ f ∈ files, output.place s.here <+: f.place s.here →
    f.place s.here = output.place s.here
  /-- What the path of a file passes is there, where it is on the way to the document of another
  file. -/
  passable : ∀ f ∈ files, ∀ g ∈ files, g ≠ f → ∀ l ∈ f.visited s.here,
    l <+: (Path.documentPath output g).place s.here → s.get? l ≠ none

/-! ### Deeds of files that keep apart -/

theorem Apart.eq_of_isPrefix (h : Apart s output files) (hf : f ∈ files) (hg : g ∈ files)
    (hfg : (Path.documentPath output f).place s.here <+:
      (Path.documentPath output g).place s.here) : f = g := by
  rw [Path.place_names (Path.components_documentPath output f),
    Path.place_names (Path.components_documentPath output g)] at hfg
  rcases Path.documentPath_eq_or_below output ((List.prefix_append_right_inj _).mp hfg)
    with heq | hbelow
  · exact List.inj_on_of_nodup_map h.nodup hf hg heq
  · exact absurd hbelow (h.below f hf g hg)

/-- Two files put the same at a location: a directory, or they are the same file. -/
theorem Apart.laid_unique (h : Apart s output files)
    (hd : ∀ f ∈ files, (d f).Fits s (Path.documentPath output f) (r f)) (hf : f ∈ files)
    (hg : g ∈ files) (hi : (d f).laid l = some i) (hj : (d g).laid l = some j) : i = j := by
  have habove : ∀ f ∈ files, ∀ g ∈ files, ∀ c, l ∈ (d f).directories →
      (d g).file = some (l, c) → False := by
    intro f hf g hg c hdir hfile
    obtain ⟨⟨hl, hne⟩, -⟩ := (hd f hf).directories l hdir
    obtain ⟨hplace, -⟩ := (hd g hg).file _ hfile
    obtain rfl := h.eq_of_isPrefix hg hf (hplace ▸ hl)
    exact hne hplace
  rcases Deed.laid_eq_some hi with ⟨hdir, rfl⟩ | ⟨c, hfile, rfl⟩
  · rcases Deed.laid_eq_some hj with ⟨-, rfl⟩ | ⟨c', hfile', rfl⟩
    · rfl
    · exact (habove f hf g hg c' hdir hfile').elim
  · rcases Deed.laid_eq_some hj with ⟨hdir', rfl⟩ | ⟨c', hfile', rfl⟩
    · exact (habove g hg f hf c hdir' hfile).elim
    · obtain ⟨hplace, -⟩ := (hd f hf).file _ hfile
      obtain ⟨hplace', -⟩ := (hd g hg).file _ hfile'
      obtain rfl := h.eq_of_isPrefix hf hg (hplace ▸ hplace' ▸ List.prefix_rfl)
      rw [hfile] at hfile'
      obtain ⟨-, rfl⟩ := Prod.mk.inj (Option.some.inj hfile')
      rfl

/-- What the deeds of the files put is there, and otherwise nothing has changed. -/
structure After (d : Path → Deed) (done : List Path) (s s' : FileStore) : Prop where
  here : s'.here = s.here
  item : ∀ l, s'.get? l = (done.findSome? fun f => (d f).laid l).or (s.get? l)

theorem After.cases (h : After d done s s') (l : Location) :
    s'.get? l = s.get? l ∨ ∃ g ∈ done, ∃ i, (d g).laid l = some i ∧ s'.get? l = some i := by
  cases hlaid : done.findSome? fun f => (d f).laid l with
  | none =>
    rw [h.item, hlaid]
    exact Or.inl rfl
  | some i =>
    obtain ⟨g, hg, hi⟩ := List.exists_of_findSome?_eq_some hlaid
    rw [h.item, hlaid]
    exact Or.inr ⟨g, hg, i, hi, rfl⟩

/-- For other files, directories were made above their documents, and their documents written. -/
theorem After.elsewhere (hafter : After d done s s')
    (hd : ∀ f ∈ files, (d f).Fits s (Path.documentPath output f) (r f))
    (hdone : ∀ g ∈ done, g ∈ files ∧ g ≠ f) (l : Location) :
    s'.get? l = s.get? l ∨
      ∃ g ∈ files, g ≠ f ∧
        ((l <+: (Path.documentPath output g).place s.here ∧ s.get? l = none ∧
            s'.get? l = some .directory) ∨
          (l = (Path.documentPath output g).place s.here ∧ s.get? l ≠ some .directory ∧
            ∃ c, s'.get? l = some (.file c))) := by
  rcases hafter.cases l with heq | ⟨g, hg, i, hi, heq⟩
  · exact Or.inl heq
  · obtain ⟨hg, hne⟩ := hdone g hg
    rcases Deed.laid_eq_some hi with ⟨hdir, rfl⟩ | ⟨c, hfile, rfl⟩
    · obtain ⟨⟨hlt, -⟩, hnone | hthere⟩ := (hd g hg).directories l hdir
      · exact Or.inr ⟨g, hg, hne, Or.inl ⟨hlt, hnone, heq⟩⟩
      · exact Or.inl (heq.trans hthere.symm)
    · obtain ⟨hplace, hdir, -⟩ := (hd g hg).file _ hfile
      exact Or.inr ⟨g, hg, hne, Or.inr ⟨hplace, hdir, c, heq⟩⟩

/-- What has been done for other files does not matter for the next one. -/
theorem After.surroundings (hafter : After d done s s') (h : Apart s output files)
    (hd : ∀ f ∈ files, (d f).Fits s (Path.documentPath output f) (r f))
    (hdone : ∀ g ∈ done, g ∈ files ∧ g ≠ f) (hf : f ∈ files) : Surroundings s s' output f where
  passed l hl := by
    rcases hafter.elsewhere hd hdone l with
      heq | ⟨g, hg, hne, ⟨hlt, hnone, -⟩ | ⟨rfl, hdir, c, hfile⟩⟩
    · exact Or.inl heq
    · exact absurd hnone (h.passable f hf g hg hne l hl hlt)
    · -- a document was there before
      have hthere := h.passable f hf g hg hne _ hl List.prefix_rfl
      rcases hl' : s.get? ((Path.documentPath output g).place s.here) with _ | (c' | _)
      · exact absurd hl' hthere
      · exact Or.inr ⟨c', c, hl', hfile⟩
      · exact absurd hl' hdir
  content := by
    rcases hafter.elsewhere hd hdone (f.place s.here) with
      heq | ⟨g, hg, hne, ⟨hlt, hnone, -⟩ | ⟨hplace, -⟩⟩
    · exact heq
    · exact absurd hnone (h.passable f hf g hg hne _ (Path.place_mem_visited s.here f) hlt)
    · -- the document would be a file in the output directory
      rw [Path.place_names (Path.components_documentPath output g)] at hplace
      have hsame := h.outside f hf (hplace ▸ List.prefix_append _ _)
      exact absurd (List.self_eq_append_right.mp (hsame.symm.trans hplace))
        (Path.withSuffix_ne_nil _)
  undisturbed := by
    refine ⟨hafter.here, ?_, fun l hlt hne => ?_⟩
    · rcases hafter.elsewhere hd hdone ((Path.documentPath output f).place s.here) with
        heq | ⟨g, hg, hne, ⟨hfg, -⟩ | ⟨heq, -⟩⟩
      · exact heq
      · exact absurd (h.eq_of_isPrefix hf hg hfg).symm hne
      · exact absurd (h.eq_of_isPrefix hg hf (heq ▸ List.prefix_rfl)) hne
    · rcases hafter.elsewhere hd hdone l with
        heq | ⟨g, hg, hne', ⟨-, hnone, hdir⟩ | ⟨rfl, -⟩⟩
      · exact Or.inl heq
      · exact Or.inr ⟨hnone, hdir⟩
      · exact absurd (h.eq_of_isPrefix hg hf hlt) hne'

/-! ### Emitting one file after the other -/

/-- One more deed. -/
theorem After.concat (hafter : After d done s s₁) (h : Apart s output files)
    (hd : ∀ f ∈ files, (d f).Fits s (Path.documentPath output f) (r f))
    (hdone : ∀ g ∈ done, g ∈ files) (hf : f ∈ files) (hmade : (d f).Done s₁ s₂) :
    After d (done ++ [f]) s s₂ := by
  refine ⟨hmade.here.trans hafter.here, fun l => ?_⟩
  rw [hmade.item, hafter.item, List.findSome?_append, List.findSome?_singleton]
  cases hi : (d f).laid l with
  | none => rw [Option.none_or, Option.or_none]
  | some i =>
    cases hj : done.findSome? fun g => (d g).laid l with
    | none => rfl
    | some j =>
      obtain ⟨g, hg, hj⟩ := List.exists_of_findSome?_eq_some hj
      rw [h.laid_unique hd hf (hdone g hg) hi hj]
      rfl

section Run

variable (h : Apart s output files)
  (hd : ∀ f ∈ files, Emits s timestamp task grammars output f (d f) (r f))
include h hd

/-- The files that are left come to what each of them comes to alone. -/
theorem After.emitAll (hafter : After d done s s') (hs : Rooted s')
    (hmem : ∀ f ∈ done ++ rest, f ∈ files) (hnodup : (done ++ rest).Nodup) :
    (s'.emitAll timestamp task grammars output rest).2 = rest.map (fun f => ⟨f, r f⟩) ∧
      After d (done ++ rest) s (s'.emitAll timestamp task grammars output rest).1 := by
  induction rest generalizing s' done with
  | nil =>
    rw [List.append_nil]
    exact ⟨rfl, hafter⟩
  | cons f rest ih =>
    have hfits := fun f hf => (hd f hf).fits
    have hf : f ∈ files := hmem f (List.mem_append_right _ List.mem_cons_self)
    have hdone : ∀ g ∈ done, g ∈ files ∧ g ≠ f := fun g hg =>
      ⟨hmem g (List.mem_append_left _ hg), fun heq =>
        (List.nodup_append.mp hnodup).2.2 g hg f List.mem_cons_self heq⟩
    have hsame := hafter.surroundings h hfits hdone hf
    obtain ⟨hr, hmade⟩ := (hd f hf).emit s' hs hsame
    rw [List.append_cons done f rest] at hmem hnodup ⊢
    obtain ⟨houtcomes, hrest⟩ :=
      ih (hafter.concat h hfits (fun g hg => (hdone g hg).1) hf hmade)
        ((hd f hf).fits.rooted hs hsame.undisturbed hmade) hmem hnodup
    refine ⟨?_, hrest⟩
    rw [FileStore.emitAll, List.map_cons, ← houtcomes, ← hr]

/-- Deeds that only some of the files have are not noticed when what they put was there before. -/
theorem After.get?_eq (hdone : After d done s s₁) (hrest : After d rest s s₂)
    (hdone' : ∀ f ∈ done, f ∈ files) (hrest' : ∀ f ∈ rest, f ∈ files)
    (honly : ∀ f ∈ done, f ∉ rest → ∀ i, (d f).laid l = some i → s.get? l = some i)
    (honly' : ∀ f ∈ rest, f ∉ done → ∀ i, (d f).laid l = some i → s.get? l = some i) :
    s₂.get? l = s₁.get? l := by
  have hfits := fun f hf => (hd f hf).fits
  rw [hdone.item, hrest.item]
  cases hi : done.findSome? fun f => (d f).laid l with
  | none =>
    cases hj : rest.findSome? fun f => (d f).laid l with
    | none => rfl
    | some j =>
      obtain ⟨g, hg, hj⟩ := List.exists_of_findSome?_eq_some hj
      refine (honly' g hg (fun hg' => ?_) j hj).symm
      rw [List.findSome?_eq_none_iff.mp hi g hg'] at hj
      cases hj
  | some i =>
    obtain ⟨f, hf, hi⟩ := List.exists_of_findSome?_eq_some hi
    cases hj : rest.findSome? fun f => (d f).laid l with
    | none =>
      refine honly f hf (fun hf' => ?_) i hi
      rw [List.findSome?_eq_none_iff.mp hj f hf'] at hi
      cases hi
    | some j =>
      obtain ⟨g, hg, hj⟩ := List.exists_of_findSome?_eq_some hj
      rw [h.laid_unique hfits (hdone' f hf) (hrest' g hg) hi hj]

end Run

theorem surroundings_refl (s : FileStore) (output source : Path) :
    Surroundings s s output source where
  passed _ _ := Or.inl rfl
  content := rfl
  undisturbed := ⟨rfl, rfl, fun _ _ _ => Or.inl rfl⟩

/-- **Order**: in whatever order the files of a batch are emitted, what comes of each of them is
what comes of it alone, and the same store is left. Files that fail might as well be left out, but
for those whose document has too long a name or path. -/
theorem emitAll_order (s : FileStore) (hs : Rooted s) (timestamp : Text) (task : Task)
    (grammars : Grammars) (output : Path) (files files' : List Path) (h : Apart s output files)
    (hperm : files'.Perm files) :
    let emitted := s.emitAll timestamp task grammars output
    let alone := fun f => (s.emit timestamp task grammars output f).2
    (emitted files).2 = files.map (fun f => ⟨f, alone f⟩) ∧
      (emitted files').2 = files'.map (fun f => ⟨f, alone f⟩) ∧
      (∀ l, (emitted files').1.get? l = (emitted files).1.get? l) ∧
      ∀ kept : Path → Bool,
        (∀ f ∈ files, kept f = false →
          ∃ e, alone f = .error e ∧ ∀ p, e ≠ .write p .nameTooLong) →
        ∀ l, (emitted (files'.filter kept)).1.get? l = (emitted files).1.get? l := by
  intro emitted alone
  choose d r hd using exists_deed_emit hs h.dots timestamp task grammars
  have hd' : ∀ f ∈ files, Emits s timestamp task grammars output f (d f) (r f) := fun f _ => hd f
  have hr : alone = r := funext fun f => ((hd f).emit s hs (surroundings_refl s output f)).1
  have hnodup : files.Nodup := List.Nodup.of_map _ h.nodup
  have hnone : After d [] s s := ⟨rfl, fun _ => rfl⟩
  have hrun : ∀ fs, (∀ f ∈ fs, f ∈ files) → fs.Nodup →
      (emitted fs).2 = fs.map (fun f => ⟨f, alone f⟩) ∧ After d fs s (emitted fs).1 :=
    fun fs hfs hn => hr ▸ hnone.emitAll h hd' hs hfs hn
  obtain ⟨houtcomes, hafter⟩ := hrun files (fun f hf => hf) hnodup
  obtain ⟨houtcomes', hafter'⟩ := hrun files' (fun f hf => hperm.mem_iff.mp hf)
    (hperm.nodup_iff.mpr hnodup)
  refine ⟨houtcomes, houtcomes', fun l => ?_, fun kept hkept l => ?_⟩
  · exact hafter.get?_eq h hd' hafter' (fun f hf => hf) (fun f hf => hperm.mem_iff.mp hf)
      (fun f hf hnot => absurd (hperm.mem_iff.mpr hf) hnot)
      (fun f hf hnot => absurd (hperm.mem_iff.mp hf) hnot)
  · have hsub : ∀ f ∈ files'.filter kept, f ∈ files := fun f hf =>
      hperm.mem_iff.mp (List.mem_filter.mp hf).1
    have hafter'' := (hrun (files'.filter kept) hsub ((hperm.nodup_iff.mpr hnodup).filter _)).2
    refine hafter.get?_eq h hd' hafter'' (fun f hf => hf) hsub (fun f hf hnot i hi => ?_)
      (fun f hf hnot => absurd (hsub f hf) hnot)
    -- the file has failed, and so it has left nothing new
    have hout : kept f = false := by
      rw [← Bool.not_eq_true]
      exact fun hk => hnot (List.mem_filter.mpr ⟨hperm.mem_iff.mpr hf, hk⟩)
    obtain ⟨e, he, hne⟩ := hkept f hf hout
    rw [hr] at he
    rcases Deed.laid_eq_some hi with ⟨hdir, rfl⟩ | ⟨c, hfile, -⟩
    · exact (hd f).fits.traceless e he hne l hdir
    · obtain ⟨-, -, a, ha⟩ := (hd f).fits.file _ hfile
      rw [ha] at he
      cases he

/-- Two files share a directory that is still to be made, the document of a third one cannot be
written because a directory has its name, and a fourth one, in the root, is not there. The output
directory is in the root too. -/
theorem emitAll_order_with_failures :
    let s : FileStore :=
      { items :=
          [(Location.work, .directory), (["work".toList, "src".toList], .directory),
            (["work".toList, "src".toList, "a.c".toList],
              .file (Utf8.encode "// .title A\n".toList)),
            (["work".toList, "src".toList, "b.c".toList],
              .file (Utf8.encode "// .title B\n".toList)),
            (["work".toList, "c.c".toList], .file (Utf8.encode "// .title C\n".toList)),
            (["out".toList], .directory), (["out".toList, "docs".toList], .directory),
            (["out".toList, "docs".toList, "c.c.json".toList], .directory)] }
    let task : Task := { vocabulary := { inline := "//".toList } }
    let output := "/out/docs".toList
    let files := ["src/a.c".toList, "src/../c.c".toList, "/d.c".toList, "src/b.c".toList]
    let emitted := s.emitAll "T".toList task [] output
    let alone := fun f => (s.emit "T".toList task [] output f).2
    let kept := fun f : Path => (alone f).isOk
    Rooted s ∧ Apart s output files ∧ files.reverse.Perm files ∧
      files.map alone =
        [.ok "/out/docs/src/a.c.json".toList,
          .error (.write "/out/docs/c.c.json".toList .isDirectory),
          .error (.read "/d.c".toList .notFound), .ok "/out/docs/src/b.c.json".toList] ∧
      (∀ f ∈ files, kept f = false →
        ∃ e, alone f = .error e ∧ ∀ p, e ≠ .write p .nameTooLong) ∧
      (emitted files.reverse).2 = files.reverse.map (fun f => ⟨f, alone f⟩) ∧
      (∀ l, (emitted files.reverse).1.get? l = (emitted files).1.get? l) ∧
      ∀ l, (emitted (files.reverse.filter kept)).1.get? l = (emitted files).1.get? l := by
  intro s task output files emitted alone kept
  have hs : Rooted s := rooted_of_items (by decide +kernel) (by decide +kernel)
  have hbelow : ∀ f ∈ files, ∀ g ∈ files,
      ¬ (Path.components (Path.documentPath output f) <+:
          Path.components (Path.documentPath output g) ∧
        Path.components (Path.documentPath output f) ≠
          Path.components (Path.documentPath output g)) := by decide +kernel
  have h : Apart s output files :=
    ⟨by decide +kernel, by decide +kernel, fun f hf g hg hb => hbelow f hf g hg hb.isPrefix,
      by decide +kernel, by decide +kernel⟩
  have hfailed : ∀ f ∈ files, kept f = false →
      alone f = .error (.write "/out/docs/c.c.json".toList .isDirectory) ∨
        alone f = .error (.read "/d.c".toList .notFound) := by decide +kernel
  have hkept : ∀ f ∈ files, kept f = false →
      ∃ e, alone f = .error e ∧ ∀ p, e ≠ .write p .nameTooLong := by
    intro f hf hk
    rcases hfailed f hf hk with he | he
    · exact ⟨_, he, fun p hp => by cases hp⟩
    · exact ⟨_, he, fun p hp => by cases hp⟩
  have horder := emitAll_order s hs "T".toList task [] output files files.reverse h
    (List.reverse_perm files)
  exact ⟨hs, h, List.reverse_perm files, by decide +kernel, hkept, horder.2.1, horder.2.2.1,
    horder.2.2.2 kept hkept⟩

/-- The first file cannot be read before the second one has made the directory that its path passes.
And a file whose document has too long a name leaves the output directory that was made for it. -/
theorem emitAll_order_matters :
    let task : Task := { vocabulary := { inline := "//".toList } }
    (let s : FileStore :=
        { items :=
            [(Location.work, .directory),
              (["work".toList, "a.c".toList], .file (Utf8.encode "// .title A\n".toList)),
              (["work".toList, "b.c".toList], .file (Utf8.encode "// .title B\n".toList))] }
      let output := "emits/docs".toList
      let f := "emits/../a.c".toList
      let g := "b.c".toList
      let emitted := s.emitAll "T".toList task [] output
      let document := ["work", "emits", "docs", "a.c.json"].map String.toList
      Rooted s ∧ .parent ∉ Path.components output ∧
        ([f, g].map (Path.documentPath output)).Nodup ∧
        ¬ Path.Below (Path.documentPath output f) (Path.documentPath output g) ∧
        ¬ Path.Below (Path.documentPath output g) (Path.documentPath output f) ∧
        (∀ p ∈ [f, g], ¬ Path.place s.here output <+: Path.place s.here p) ∧
        (emitted [f, g]).2.map (·.result) =
          [.error (.read f .notFound), .ok "emits/docs/b.c.json".toList] ∧
        (emitted [g, f]).2.map (·.result) =
          [.ok "emits/docs/b.c.json".toList, .ok "emits/docs/a.c.json".toList] ∧
        (emitted [g, f]).1.get? document ≠ (emitted [f, g]).1.get? document) ∧
      let name := List.replicate 251 'a'
      let s : FileStore :=
        { items :=
            [(Location.work, .directory),
              (["work".toList, name], .file (Utf8.encode "// .title A\n".toList))] }
      let emitted := s.emitAll "T".toList task [] "emits".toList
      let directory := ["work".toList, "emits".toList]
      Rooted s ∧ directory ≠ ["work".toList, name] ∧
        (emitted [name]).2.map (·.result) =
          [.error (.write (Path.documentPath "emits".toList name) .nameTooLong)] ∧
        (emitted [name]).1.get? directory ≠ (emitted []).1.get? directory := by
  refine ⟨⟨rooted_of_items (by decide +kernel) (by decide +kernel), by decide +kernel,
    by decide +kernel, fun h => absurd h.isPrefix (by decide +kernel),
    fun h => absurd h.isPrefix (by decide +kernel), by decide +kernel, by decide +kernel,
    by decide +kernel, by decide +kernel⟩,
    rooted_of_items (by decide +kernel) (by decide +kernel), by decide +kernel, by decide +kernel,
    by decide +kernel⟩

end Marginalia.FileStore
