import Marginalia.Comment
import Marginalia.Text.Lowercase

/-!
# Tasks

A task says which files to read, how their comments look, and what their annotations must and must
not contain. A configuration holds tasks and named groups of tasks; names are found without regard
to case. `sanitize` trims the entries of every selection and drops empty and repeated ones.
-/

namespace Marginalia

/-- What to take in and what to leave out. -/
structure Selection where
  /-- The entries to take in. -/
  included : List Text := []
  /-- The entries to leave out. -/
  excluded : List Text := []
deriving DecidableEq, Repr, Inhabited

/-- One job of extraction. -/
structure Task where
  /-- The name of the task. -/
  name : Text := []
  /-- What the task is for. -/
  description : Text := []
  /-- The comment tokens of its files. -/
  vocabulary : Vocabulary := {}
  /-- Plain lines show their text where they are collected. -/
  showSource : Bool := false
  /-- The patterns of file names. -/
  files : Selection := {}
  /-- The keywords to ask for and to refuse. -/
  keywords : Selection := {}
  /-- The annotations about the file to allow and to refuse. -/
  configuration : Selection := {}
  /-- The names of its grammars, in order. -/
  grammars : List Text := []
deriving DecidableEq, Repr, Inhabited

/-- A named list of tasks. -/
structure Group where
  /-- The name of the group. -/
  name : Text := []
  /-- The names of its tasks, in order. -/
  tasks : List Text := []
deriving DecidableEq, Repr, Inhabited

/-- All that a configuration file holds. -/
structure Configuration where
  /-- The groups in order. -/
  groups : List Group := []
  /-- The tasks in order. -/
  tasks : List Task := []
deriving DecidableEq, Repr, Inhabited

/-! ### Sanitizing -/

/-- Keeps the first of equal texts, those in `seen` counted as met before. -/
def dedupFrom (seen : List Text) : List Text → List Text
  | [] => []
  | t :: rest => if seen.contains t then dedupFrom seen rest else t :: dedupFrom (t :: seen) rest

/-- The trimmed entries of a list, without empty ones and each only where it occurs first. -/
def tidy (entries : List Text) : List Text :=
  dedupFrom [] ((entries.map Text.trim).filter (!·.isEmpty))

/-- Tidies both lists. -/
def Selection.sanitize (s : Selection) : Selection :=
  { included := tidy s.included, excluded := tidy s.excluded }

/-- Tidies every selection of the task. -/
def Task.sanitize (t : Task) : Task :=
  { t with
    files := t.files.sanitize
    keywords := t.keywords.sanitize
    configuration := t.configuration.sanitize }

/-- Tidies every task. -/
def Configuration.sanitize (c : Configuration) : Configuration :=
  { c with tasks := c.tasks.map Task.sanitize }

/-! ### Finding by name -/

namespace Configuration

/-- The first task with the given name. -/
def task? (c : Configuration) (name : Text) : Option Task :=
  c.tasks.find? fun t => Text.sameName t.name name

/-- The first group with the given name. -/
def group? (c : Configuration) (name : Text) : Option Group :=
  c.groups.find? fun g => Text.sameName g.name name

end Configuration

end Marginalia
