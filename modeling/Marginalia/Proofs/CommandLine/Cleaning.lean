import Marginalia.CommandLine.Session
import Marginalia.Proofs.Run.Cleaning

/-!
# What the command `run` takes away

Each task of a command runs in a directory of its own, the output directory joined with the name of
the task, and this directory is cleared first. So what the command takes away is at or below such a
directory (`prefix_of_lost_runTasks`). If the name leads below the output directory, so does all
that is lost; but names are not looked at, and one with two dots or none at all leads elsewhere
(`lost_ofWords_run`).
-/

namespace Marginalia.CommandLine

/-! ### Commands -/

namespace Command

variable {words : List Text} {verbose : Bool} {choice : Choice} {setup : Setup} {output : Path}
  {clean : Bool} {rendition : Rendition}

theorem output_ne_nil_of_ofRunWords
    (h : ofRunWords words = .ok (.run choice setup output clean rendition)) : output ≠ [] := by
  obtain ⟨a, -, h⟩ := exists_ok_of_bind h
  obtain ⟨choice', -, h⟩ := exists_ok_of_bind h
  obtain ⟨setup', -, h⟩ := exists_ok_of_bind h
  obtain ⟨given, hgiven, h⟩ := exists_ok_of_bind h
  obtain ⟨rendition', -, h⟩ := exists_ok_of_bind h
  have hne : given ≠ some [] := by
    rintro rfl
    unfold path? at hgiven
    split at hgiven
    · cases hgiven
    · rename_i hp
      exact hp (Except.ok.inj hgiven)
  split_ifs at h
  · obtain ⟨-, -, rfl, -, -⟩ := Command.run.inj (Except.ok.inj h)
    cases given with
    | none => decide
    | some p => exact fun hp => hne (congrArg some hp)

theorem ofParseWords_ne_run :
    ofParseWords words ≠ .ok (.run choice setup output clean rendition) := by
  intro h
  obtain ⟨a, -, h⟩ := exists_ok_of_bind h
  obtain ⟨setup', -, h⟩ := exists_ok_of_bind h
  obtain ⟨rendition', -, h⟩ := exists_ok_of_bind h
  split at h
  · split_ifs at h
    cases h
  · cases h

theorem ofListWords_ne_run :
    ofListWords words ≠ .ok (.run choice setup output clean rendition) := by
  intro h
  obtain ⟨a, -, h⟩ := exists_ok_of_bind h
  obtain ⟨configuration, -, h⟩ := exists_ok_of_bind h
  split_ifs at h
  cases h

/-- An output directory has a name. -/
theorem output_ne_nil (h : ofWords words = .ok (.run choice setup output clean rendition)) :
    output ≠ [] := by
  have hfrom : ∀ verbose, ofWordsFrom verbose words =
      .ok (.run choice setup output clean rendition) → output ≠ [] := by
    clear h
    induction words with
    | nil =>
      intro verbose h
      cases h
    | cons word words ih =>
      intro verbose h
      unfold ofWordsFrom at h
      dsimp only at h
      split_ifs at h
      · exact output_ne_nil_of_ofRunWords h
      · exact absurd h ofParseWords_ne_run
      · exact absurd h ofListWords_ne_run
      all_goals
        split at h
        · cases h
        · split at h
          · cases h
          · cases h
          · exact ih true h
  exact hfrom false h

end Command

/-! ### Sessions -/

namespace Session

variable {s : Session} {timestamp : Text} {setup : Setup} {output : Path} {clean : Bool}
  {rendition : Rendition} {tasks : List Task} {l : Location}

@[simp] theorem store_warn (s : Session) (failures : List Failure) :
    (s.warn failures).store = s.store := rfl

/-- **Tasks** take away nothing but their directories and what is below them. -/
theorem prefix_of_lost_runTasks {store : FileStore} {passed : Bool}
    (h : store.Loses (runTasks timestamp setup output clean rendition s passed tasks).store l)
    (hs : s.store = store) :
    clean = true ∧ ∃ task ∈ tasks, (Path.join output task.name).place store.here <+: l := by
  induction tasks generalizing s store passed with
  | nil => exact absurd h (hs ▸ FileStore.not_loses_self _ l)
  | cons task tasks ih =>
    unfold runTasks at h
    dsimp only [store_warn] at h
    have hfirst : ∀ grammars, store.Loses
        (s.store.runTask timestamp task grammars (Path.join output task.name) clean).1 l →
          clean = true ∧ (Path.join output task.name).place store.here <+: l := by
      intro grammars hlost
      rw [← hs] at hlost ⊢
      exact FileStore.prefix_of_lost_runTask hlost
    split at h
    · rename_i hrun
      obtain ⟨hclean, hplace⟩ := hfirst _ (by rwa [hrun])
      exact ⟨hclean, task, List.mem_cons_self, hplace⟩
    · rename_i store₁ report hrun
      rcases FileStore.Loses.of_trans h store₁ with hlost | hlost
      · obtain ⟨hclean, hplace⟩ := hfirst _ (by rwa [hrun])
        exact ⟨hclean, task, List.mem_cons_self, hplace⟩
      · obtain ⟨hclean, task', htask, hplace⟩ := ih hlost rfl
        -- the working directory of the next task is the same
        have hhere := congrArg (fun r => r.1.here) hrun
        rw [FileStore.here_runTask, hs] at hhere
        rw [← hhere] at hplace
        exact ⟨hclean, task', List.mem_cons_of_mem _ htask, hplace⟩

/-- **What `run` loses.** Where the name of a task is a relative path, its directory is below the
output directory exactly if the name has no two dots and some name in it; an absolute name is the
directory. All that a command takes away is at or below the directory of one of its tasks, and it is
strictly below the output directory if this directory is. -/
theorem lost_ofWords_run (store : FileStore) (timestamp : Text) {words : List Text}
    {choice : Choice} {setup : Setup} {output : Path} {clean : Bool} {rendition : Rendition}
    (h : Command.ofWords words = .ok (.run choice setup output clean rendition)) :
    (∀ name, Path.isAbsolute name = false →
      (Path.Below output (Path.join output name) ↔
        .parent ∉ Path.components name ∧ ∃ n, .name n ∈ Path.components name)) ∧
    (∀ name, Path.isAbsolute name = true → Path.join output name = name) ∧
    ∀ l, store.Loses (ofWords store timestamp words).store l →
      clean = true ∧ ∃ c tasks, store.loadConfiguration setup.configuration = .ok c ∧
        chosen c choice = .ok tasks ∧ ∃ task ∈ tasks,
          let directory := Path.join output task.name
          directory.place store.here <+: l ∧
          (Path.Below output directory → ∃ ns, ns ≠ [] ∧ l = output.place store.here ++ ns) := by
  refine ⟨fun name hname => Path.below_join_iff (Command.output_ne_nil h) hname,
    fun name hname => by rw [Path.join, if_pos hname], fun l hl => ?_⟩
  rw [ofWords, h] at hl
  dsimp only [ofCommand] at hl
  unfold run at hl
  cases hload : store.loadConfiguration setup.configuration with
  | error e =>
    rw [hload] at hl
    exact absurd hl (FileStore.not_loses_self store l)
  | ok c =>
    rw [hload] at hl
    dsimp only at hl
    cases hchosen : chosen c choice with
    | error e =>
      rw [hchosen] at hl
      exact absurd hl (FileStore.not_loses_self store l)
    | ok tasks =>
      rw [hchosen] at hl
      obtain ⟨hclean, task, htask, hprefix⟩ := prefix_of_lost_runTasks hl rfl
      refine ⟨hclean, c, tasks, rfl, hchosen, task, htask, hprefix, ?_⟩
      rintro ⟨ns, hne, -, hcomponents⟩
      rw [Path.place_names hcomponents] at hprefix
      obtain ⟨rest, rfl⟩ := hprefix
      exact ⟨ns ++ rest, List.append_ne_nil_of_left_ne_nil hne rest, List.append_assoc _ ns rest⟩

/-- A name with slashes leads two levels below the output directory, and one that starts at the root
leads away from it; what is beside the two stays. -/
theorem lost_ofWords_run_nested_name :
    let config := r#"{"task": [{"name": "./docs/v1"}, {"name": "/srv/docs"}],
      "group": [{"name": "all", "tasks": ["/srv/docs", "./docs/v1"]}]}"#.toList
    let old := ["work", "emits", "docs", "v1", "a.c.json"].map String.toList
    let served := ["srv", "docs", "a.c.json"].map String.toList
    let beside := ["work", "emits", "docs", "notes"].map String.toList
    let store : FileStore :=
      { items :=
          [(Location.work, .directory),
            (["work".toList, "emits.json".toList], .file (Utf8.encode config)),
            (["work".toList, "emits".toList], .directory),
            (["work".toList, "emits".toList, "docs".toList], .directory), (beside, .file []),
            (["work".toList, "emits".toList, "docs".toList, "v1".toList], .directory),
            (old, .file []), (["srv".toList], .directory),
            (["srv".toList, "docs".toList], .directory), (served, .file [])] }
    let words := ["run".toList, "--group".toList, "all".toList]
    let output := "emits".toList
    let lost := store.Loses (ofWords store [] words).store
    Command.ofWords words =
        .ok (.run (.group "all".toList) ⟨"emits.json".toList, none⟩ output true .outline) ∧
      Path.Below output (Path.join output "./docs/v1".toList) ∧
      Path.join output "/srv/docs".toList = "/srv/docs".toList ∧
      lost old ∧ lost served ∧ ¬ lost beside ∧
      ∀ l, lost l →
        ∃ c tasks, store.loadConfiguration "emits.json".toList = .ok c ∧
          chosen c (.group "all".toList) = .ok tasks ∧ ∃ task ∈ tasks,
            let directory := Path.join output task.name
            directory.place store.here <+: l ∧
            (Path.Below output directory →
              ∃ ns, ns ≠ [] ∧ l = Path.place store.here output ++ ns) := by
  intro config old served beside store words output lost
  have hwords : Command.ofWords words =
      .ok (.run (.group "all".toList) ⟨"emits.json".toList, none⟩ output true .outline) := by
    decide +kernel
  obtain ⟨hbelow, habsolute, hlost⟩ := lost_ofWords_run store [] hwords
  exact ⟨hwords, (hbelow _ (by decide)).mpr ⟨by decide, "docs".toList, by decide⟩,
    habsolute _ (by decide), by decide +kernel, by decide +kernel, by decide +kernel,
    fun l hl => (hlost l hl).2⟩

/-- A name with two dots makes a directory beside the output directory lose its files. -/
theorem ofWords_run_loses_beside_output :
    let config := r#"{"task": [{"name": "../keep"}]}"#.toList
    let notes := ["work", "keep", "notes.txt"].map String.toList
    let store : FileStore :=
      { items :=
          [(Location.work, .directory),
            (["work".toList, "emits.json".toList], .file (Utf8.encode config)),
            (["work".toList, "emits".toList], .directory),
            (["work".toList, "keep".toList], .directory), (notes, .file [])] }
    let words := ["run".toList, "--task".toList, "../keep".toList]
    let output := "emits".toList
    Command.ofWords words =
        .ok (.run (.task "../keep".toList) ⟨"emits.json".toList, none⟩ output true .outline) ∧
      ¬ Path.Below output (Path.join output "../keep".toList) ∧
      store.Loses (ofWords store [] words).store notes ∧
      ¬ ∃ ns, notes = Path.place store.here output ++ ns := by
  intro config notes store words output
  refine ⟨by decide +kernel, fun hbelow => ?_, by decide +kernel, ?_⟩
  · exact ((Path.below_join_iff (by decide) (by decide)).mp hbelow).1 (by decide)
  · have hplace : ¬ Path.place store.here output <+: notes := by decide +kernel
    rintro ⟨ns, hnotes⟩
    exact hplace ⟨ns, hnotes.symm⟩

end Session

end Marginalia.CommandLine
