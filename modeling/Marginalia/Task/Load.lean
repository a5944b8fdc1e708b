import Marginalia.Failure
import Marginalia.Task.Json

/-!
# Loading configurations

A configuration is read from a file of the store. Tasks and groups are asked for by name, and a name
that is not there is a failure.
-/

namespace Marginalia

/-- Reads the configuration in a file. -/
def FileStore.loadConfiguration (s : FileStore) (path : Path) : Except Failure Configuration :=
  match s.readText path with
  | .error e => .error (.read path e)
  | .ok t =>
    match Configuration.read t with
    | .error e => .error (.configuration path (Failure.json e).message)
    | .ok c => .ok c

namespace Configuration

/-- The task with a name. -/
def task (c : Configuration) (name : Text) : Except Failure Task :=
  match c.task? name with
  | none => .error (.unknownTask (Text.trim name))
  | some t => .ok t

/-- The group with a name. -/
def group (c : Configuration) (name : Text) : Except Failure Group :=
  match c.group? name with
  | none => .error (.unknownGroup (Text.trim name))
  | some g => .ok g

/-- The tasks of the group with a name; the first name that is not there is reported. -/
def groupTasks (c : Configuration) (name : Text) : Except Failure (List Task) :=
  match c.group name with
  | .error e => .error e
  | .ok g => g.tasks.mapM c.task

end Configuration

end Marginalia
