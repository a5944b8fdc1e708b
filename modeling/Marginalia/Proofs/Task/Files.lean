import Marginalia.Proofs.Task.FirstOccurrences
import Marginalia.Task.Files

/-!
# Which files a task has

A pattern finds a path when it finds a file with the same components (`Finder.Finds`). The files of
a task are the paths that one of its patterns to take in finds and none of those to leave out, each
once; they come in the order of the first patterns that find them, and where that is the same, in
the order of what it finds (`Finder.Resolves`). A faulty pattern is reported instead, the first one
if there are several (`Task.filesBy_exact`).

Nothing is assumed of what finds the files.
-/

namespace Marginalia

namespace Finder

variable (f : Finder) {pattern : Text} {patterns : List Text}

/-- The pattern is not faulty. -/
def Valid (pattern : Text) : Prop := ∃ paths, f.find pattern = .ok paths

/-- The files that a pattern finds, in order; none if it is faulty. -/
def found (pattern : Text) : List Path :=
  match f.find pattern with
  | .error _ => []
  | .ok paths => paths.filter f.isFile

/-- The pattern finds the path as a file. -/
def Finds (pattern : Text) (p : Path) : Prop :=
  ∃ q ∈ f.found pattern, Path.components q = Path.components p

/-- The place of a path: that of the first of the patterns which finds it, and the place in what
this pattern finds. -/
def place (patterns : List Text) (p : Path) : Nat × Nat :=
  placeAmong Path.components (patterns.map f.found) (Path.components p)

/-- `files` are what the patterns `asked` find and the patterns `refused` do not. -/
structure Resolves (asked refused : List Text) (files : List Path) : Prop where
  /-- They are written as they are found. -/
  found : ∀ p ∈ files, ∃ pattern ∈ asked, p ∈ f.found pattern
  /-- No path is there twice. -/
  nodup : (files.map Path.components).Nodup
  /-- A path is there if it is found by a pattern asked and by none that is refused. -/
  mem_iff : ∀ p, (∃ q ∈ files, Path.components q = Path.components p) ↔
    (∃ pattern ∈ asked, f.Finds pattern p) ∧ ∀ pattern ∈ refused, ¬ f.Finds pattern p
  /-- They are in the order of their places. -/
  order : files.Pairwise fun p q =>
    Prod.Lex (· < ·) (· < ·) (f.place asked p) (f.place asked q)

/-! ### What patterns find -/

variable {f}

theorem filesOf_of_valid (h : f.Valid pattern) : f.filesOf pattern = .ok (f.found pattern) := by
  obtain ⟨paths, h⟩ := h
  simp only [filesOf, found, h]

theorem filesOf_of_error {e : Glob.Error} (h : f.find pattern = .error e) :
    f.filesOf pattern = .error (.files pattern e) := by
  simp only [filesOf, h]

theorem mapM_filesOf (h : ∀ pattern ∈ patterns, f.Valid pattern) :
    patterns.mapM f.filesOf = .ok (patterns.map f.found) := by
  induction patterns with
  | nil => rfl
  | cons pattern patterns ih =>
    rw [List.forall_mem_cons] at h
    rw [List.mapM_cons, filesOf_of_valid h.1, ih h.2]
    rfl

/-- The first faulty pattern is reported. -/
theorem mapM_filesOf_append {before after : List Text} {e : Glob.Error}
    (hbefore : ∀ pattern ∈ before, f.Valid pattern) (he : f.find pattern = .error e) :
    (before ++ pattern :: after).mapM f.filesOf = .error (.files pattern e) := by
  induction before with
  | nil =>
    rw [List.nil_append, List.mapM_cons, filesOf_of_error he]
    rfl
  | cons other before ih =>
    rw [List.forall_mem_cons] at hbefore
    rw [List.cons_append, List.mapM_cons, filesOf_of_valid hbefore.1, ih hbefore.2]
    rfl

theorem filesOfAll_of_valid (h : ∀ pattern ∈ tidy patterns, f.Valid pattern) :
    f.filesOfAll patterns = .ok ((tidy patterns).map f.found).flatten := by
  rw [filesOfAll, mapM_filesOf h, Except.map]

theorem filesOfAll_of_error {before after : List Text} {e : Glob.Error}
    (h : tidy patterns = before ++ pattern :: after)
    (hbefore : ∀ pattern ∈ before, f.Valid pattern) (he : f.find pattern = .error e) :
    f.filesOfAll patterns = .error (.files pattern e) := by
  rw [filesOfAll, h, mapM_filesOf_append hbefore he, Except.map]

theorem exists_mem_flatten_iff {cs : List Path.Component} :
    (∃ q ∈ (patterns.map f.found).flatten, Path.components q = cs) ↔
      ∃ pattern ∈ patterns, ∃ q ∈ f.found pattern, Path.components q = cs := by
  simp only [List.mem_flatten, List.mem_map]
  constructor
  · rintro ⟨q, ⟨_, ⟨pattern, hpattern, rfl⟩, hq⟩, hcs⟩
    exact ⟨pattern, hpattern, q, hq, hcs⟩
  · rintro ⟨pattern, hpattern, q, hq, hcs⟩
    exact ⟨q, ⟨_, ⟨pattern, hpattern, rfl⟩, hq⟩, hcs⟩

end Finder

/-! ### The files of a task -/

theorem dedupPaths_eq (seen : List (List Path.Component)) (ps : List Path) :
    dedupPaths seen ps = keepFirst Path.components seen ps := by
  induction ps generalizing seen with
  | nil => rfl
  | cons p ps ih =>
    rw [dedupPaths, keepFirst, ih, ih]
    by_cases hseen : Path.components p ∈ seen
    · rw [if_pos (List.contains_iff_mem.mpr hseen), if_pos hseen]
    · rw [if_neg (mt List.contains_iff_mem.mp hseen), if_neg hseen]

/-- The first occurrences among what is found, without what is refused, are the files wanted. -/
theorem Finder.resolves_filter (f : Finder) (asked refused : List Text) :
    f.Resolves asked refused ((keepFirst Path.components [] (asked.map f.found).flatten).filter
      fun p => !((refused.map f.found).flatten.map Path.components).contains
        (Path.components p)) := by
  have hfirsts := firsts_keepFirst Path.components (asked.map f.found).flatten
  have hrefused : ∀ p : Path,
      (!((refused.map f.found).flatten.map Path.components).contains (Path.components p)) = true ↔
        ∀ pattern ∈ refused, ¬ f.Finds pattern p := by
    intro p
    rw [Bool.not_eq_true', ← Bool.not_eq_true, List.contains_iff_mem, List.mem_map,
      exists_mem_flatten_iff, not_exists]
    simp only [not_and]
    rfl
  constructor
  · intro p hp
    obtain ⟨_, hfound, hp⟩ := List.mem_flatten.mp (hfirsts.subset (List.mem_filter.mp hp).1)
    obtain ⟨pattern, hpattern, rfl⟩ := List.mem_map.mp hfound
    exact ⟨pattern, hpattern, hp⟩
  · exact hfirsts.nodup_keys.sublist (List.filter_sublist.map _)
  · intro p
    have hasked := (hfirsts.exists_key_eq_iff (k := Path.components p)).trans
      exists_mem_flatten_iff
    constructor
    · rintro ⟨q, hq, heq⟩
      obtain ⟨hq, hnot⟩ := List.mem_filter.mp hq
      refine ⟨hasked.mp ⟨q, hq, heq⟩, fun pattern hpattern => ?_⟩
      rw [Finds, ← heq]
      exact (hrefused q).mp hnot pattern hpattern
    · rintro ⟨hfound, hnot⟩
      obtain ⟨q, hq, heq⟩ := hasked.mpr hfound
      refine ⟨q, List.mem_filter.mpr ⟨hq, (hrefused q).mpr fun pattern hpattern => ?_⟩, heq⟩
      rw [Finds, heq]
      exact hnot pattern hpattern
  · exact (hfirsts.order.imp placeAmong_lt_of_firstPlace_lt).filter _

theorem append_eq_append_cons {α : Type} {as bs before after : List α} {a : α}
    (h : as ++ bs = before ++ a :: after) :
    (∃ rest, before = as ++ rest ∧ bs = rest ++ a :: after) ∨ ∃ rest, as = before ++ a :: rest := by
  rcases List.append_eq_append_iff.mp h with hbehind | ⟨rest, has, hrest⟩
  · exact .inl hbehind
  · cases rest with
    | nil => exact .inl ⟨[], by simpa using has.symm, hrest.symm⟩
    | cons b rest =>
      obtain ⟨rfl, -⟩ := List.cons.inj hrest
      exact .inr ⟨rest, has⟩

/-- **The files of a task** are those that its patterns find, if none of its patterns is faulty: the
files found by a pattern to take in and by none to leave out, each once, in the order of the
patterns and of what these find. Else the first faulty pattern is reported, those to take in before
those to leave out. Patterns count trimmed, without blank ones and without repeats. -/
theorem Task.filesBy_exact (task : Task) (f : Finder) :
    let asked := tidy task.files.included
    let refused := tidy task.files.excluded
    Marginalia.TidyOf task.files.included asked ∧
      Marginalia.TidyOf task.files.excluded refused ∧
      ((∀ pattern ∈ asked ++ refused, f.Valid pattern) →
        ∃ files, task.filesBy f = .ok files ∧ f.Resolves asked refused files) ∧
      ∀ before pattern after e, asked ++ refused = before ++ pattern :: after →
        (∀ other ∈ before, f.Valid other) → f.find pattern = .error e →
        task.filesBy f = .error (.files pattern e) := by
  intro asked refused
  refine ⟨tidyOf_tidy _, tidyOf_tidy _, fun hvalid => ?_,
    fun before pattern after e heq hbefore he => ?_⟩
  · rw [List.forall_mem_append] at hvalid
    refine ⟨_, ?_, f.resolves_filter asked refused⟩
    rw [filesBy, Finder.filesOfAll_of_valid hvalid.1, Finder.filesOfAll_of_valid hvalid.2]
    dsimp only
    rw [dedupPaths_eq, keepFirst_filter]
    intro p q hpq
    rw [hpq]
  · rw [filesBy]
    rcases append_eq_append_cons heq with ⟨rest, rfl, hrefused⟩ | ⟨rest, hasked⟩
    · rw [List.forall_mem_append] at hbefore
      rw [Finder.filesOfAll_of_valid hbefore.1]
      dsimp only
      rw [Finder.filesOfAll_of_error hrefused hbefore.2 he]
    · rw [Finder.filesOfAll_of_error hasked hbefore he]

/-- A pattern with blank ends, a blank one and a repeated one; a directory, a file that is found
twice, and one that is to be left out. With a set that is not closed there are no files. -/
theorem Task.filesBy_exact_repeated :
    let found : List (Text × List Path) :=
      [("x/*".toList, ["x/b".toList, "x/d".toList, "x/a".toList]),
        ("x/?".toList, ["x/c".toList, "x//a".toList]), ("x/b".toList, ["x/b".toList])]
    let f : Finder :=
      { find := fun pattern => ((found.lookup pattern).map .ok).getD (.error ⟨0, .range⟩)
        isFile := fun p => p != "x/d".toList }
    let task : Task :=
      { files :=
        { included := [" x/*\t", " ", "x/?", "x/*"].map String.toList
          excluded := ["x/b".toList] } }
    let faulty : Task :=
      { files := { included := ["x/*".toList], excluded := ["x/b".toList, "[".toList] } }
    (∀ pattern ∈ tidy task.files.included ++ tidy task.files.excluded, f.Valid pattern) ∧
      task.filesBy f = .ok ["x/a".toList, "x/c".toList] ∧
      f.Resolves ["x/*".toList, "x/?".toList] ["x/b".toList] ["x/a".toList, "x/c".toList] ∧
      faulty.filesBy f = .error (.files "[".toList ⟨0, .range⟩) := by
  intro found f task faulty
  have hasked : tidy task.files.included = ["x/*".toList, "x/?".toList] := by decide +kernel
  have hrefused : tidy task.files.excluded = ["x/b".toList] := by decide +kernel
  have hfaulty : tidy faulty.files.included ++ tidy faulty.files.excluded =
      ["x/*".toList, "x/b".toList] ++ "[".toList :: [] := by decide +kernel
  have hvalid : ∀ pattern ∈ tidy task.files.included ++ tidy task.files.excluded,
      f.Valid pattern := by
    rw [hasked, hrefused]
    simp only [List.forall_mem_append, List.forall_mem_cons]
    exact ⟨⟨⟨_, rfl⟩, ⟨_, rfl⟩, List.forall_mem_nil _⟩, ⟨_, rfl⟩, List.forall_mem_nil _⟩
  have hfiles : task.filesBy f = .ok ["x/a".toList, "x/c".toList] := by decide +kernel
  obtain ⟨files, heq, hresolves⟩ := (filesBy_exact task f).2.2.1 hvalid
  obtain rfl : files = ["x/a".toList, "x/c".toList] := Except.ok.inj (heq.symm.trans hfiles)
  rw [hasked, hrefused] at hresolves
  refine ⟨hvalid, hfiles, hresolves, (filesBy_exact faulty f).2.2.2 _ _ _ _ hfaulty ?_ rfl⟩
  simp only [List.forall_mem_cons]
  exact ⟨⟨_, rfl⟩, ⟨_, rfl⟩, List.forall_mem_nil _⟩

end Marginalia
