import Marginalia.Failure
import Marginalia.Task

/-!
# The files of a task

A task names its files by patterns. Those found by the patterns to take in come in the order of the
patterns, each once; those found by the patterns to leave out are left out. Paths with the same
components count as the same.

What a pattern finds is up to a `Finder`; the one of a file store finds what is in the store.
-/

namespace Marginalia

/-- What finds files. -/
structure Finder where
  /-- The paths that a pattern finds, in order. -/
  find : Text → Except Glob.Error (List Path)
  /-- The path leads to a file. -/
  isFile : Path → Bool

namespace Finder

/-- The files that a pattern finds. -/
def filesOf (f : Finder) (pattern : Text) : Except Failure (List Path) :=
  match f.find pattern with
  | .error e => .error (.files pattern e)
  | .ok paths => .ok (paths.filter f.isFile)

/-- The files that some of the patterns find, in the order of the patterns; the first faulty pattern
is reported. -/
def filesOfAll (f : Finder) (patterns : List Text) : Except Failure (List Path) :=
  ((tidy patterns).mapM f.filesOf).map List.flatten

end Finder

/-- Keeps the first of paths with the same components, those in `seen` counted as met before. -/
def dedupPaths (seen : List (List Path.Component)) : List Path → List Path
  | [] => []
  | p :: rest =>
    let cs := Path.components p
    if seen.contains cs then dedupPaths seen rest else p :: dedupPaths (cs :: seen) rest

/-- The files of the task, as they are found. -/
def Task.filesBy (task : Task) (f : Finder) : Except Failure (List Path) :=
  match f.filesOfAll task.files.included with
  | .error e => .error e
  | .ok included =>
    match f.filesOfAll task.files.excluded with
    | .error e => .error e
    | .ok excluded =>
      let refused := excluded.map Path.components
      .ok (dedupPaths [] (included.filter fun p => !refused.contains (Path.components p)))

/-- The store finds what is in it. -/
def FileStore.finder (s : FileStore) : Finder := ⟨s.glob, s.isFile⟩

/-- The files of the task. -/
def Task.filesIn (task : Task) (s : FileStore) : Except Failure (List Path) :=
  task.filesBy s.finder

end Marginalia
