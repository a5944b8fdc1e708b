import Marginalia.Document.Json
import Marginalia.Failure
import Marginalia.Task.Files

/-!
# Runs

A run emits a document for every file of a task below an output directory, and then an index of the
documents. A file that fails is reported and does not stop the others.

* `FileStore.emit` reads one file and writes its document.
* `FileStore.runFiles` runs a task on given files, `FileStore.runTask` on the files of the task.

Each gives the store that is left, also where it fails.
-/

namespace Marginalia

/-- What became of a file. -/
structure Outcome where
  /-- The path of the file. -/
  source : Path
  /-- The path of its document. -/
  result : Except Failure Path

/-- What became of a run. -/
structure Report where
  /-- The name of the task. -/
  task : Text := []
  /-- The output directory. -/
  output : Path := []
  /-- What became of each file, in order. -/
  outcomes : List Outcome := []
  /-- The path of the index, if there is one. -/
  index : Option Path := none

namespace Report

/-- The paths of the documents written. -/
def written (r : Report) : List Path := r.outcomes.filterMap fun o => o.result.toOption

/-- The files that failed. -/
def failures (r : Report) : List (Path × Failure) :=
  r.outcomes.filterMap fun o =>
    match o.result with
    | .ok _ => none
    | .error e => some (o.source, e)

/-- No file failed. -/
def passed (r : Report) : Bool := r.failures.isEmpty

end Report

/-- The annotations of a file in the store. -/
def FileStore.extract (s : FileStore) (task : Task) (grammars : Grammars) (path : Path) :
    Except Failure Parsed :=
  match s.read path with
  | .error e => .error (.read path e)
  | .ok content =>
    .ok (((Extractor.ofTask task grammars (Path.extension path)).ofBytes content).parsed path)

/-- The document of a file in the store. -/
def FileStore.document (s : FileStore) (timestamp : Text) (task : Task) (grammars : Grammars)
    (path : Path) : Except Failure Document :=
  match s.extract task grammars path with
  | .error e => .error e
  | .ok parsed =>
    match task.assemble timestamp parsed with
    | .error v => .error (.filter path v)
    | .ok d => .ok d

/-! ### Writing -/

namespace FileStore

/-- Writes a value as JSON indented by tabs; directories that are not there are made. -/
def writeJson (s : FileStore) (v : Json.Value) (path : Path) : FileStore × Except Failure Unit :=
  match s.createDirectories ((Path.parent? path).getD []) with
  | (s, .error e) => (s, .error (.write path e))
  | (s, .ok ()) =>
    match s.write path (Utf8.encode (v.write .tabs)) with
    | .error e => (s, .error (.write path e))
    | .ok s => (s, .ok ())

/-- The name of the index in an output directory. -/
def indexName : Text := "emits.json".toList

/-- Writes the index of an output directory, and tells its path. -/
def writeIndex (s : FileStore) (i : Index) (output : Path) : FileStore × Except Failure Path :=
  let path := Path.join output indexName
  match s.writeJson i.toJson path with
  | (s, .error e) => (s, .error e)
  | (s, .ok ()) => (s, .ok path)

/-! ### Running -/

/-- Writes the document of a file below an output directory, and tells its path. -/
def emit (s : FileStore) (timestamp : Text) (task : Task) (grammars : Grammars)
    (output path : Path) : FileStore × Except Failure Path :=
  match s.document timestamp task grammars path with
  | .error e => (s, .error e)
  | .ok d =>
    let target := Path.documentPath output path
    match s.writeJson d.toJson target with
    | (s, .error e) => (s, .error e)
    | (s, .ok ()) => (s, .ok target)

/-- Emits files in order. -/
def emitAll (s : FileStore) (timestamp : Text) (task : Task) (grammars : Grammars) (output : Path) :
    List Path → FileStore × List Outcome
  | [] => (s, [])
  | path :: paths =>
    let (s, result) := s.emit timestamp task grammars output path
    let (s, outcomes) := s.emitAll timestamp task grammars output paths
    (s, ⟨path, result⟩ :: outcomes)

/-- Takes the output directory away if it is there and `clean` says so. -/
def clear (s : FileStore) (clean : Bool) (output : Path) : FileStore × Except Failure Unit :=
  if clean && s.isDirectory output then
    match s.removeDirectory output with
    | (s, .error e) => (s, .error (.directory e))
    | (s, .ok ()) => (s, .ok ())
  else (s, .ok ())

/-- Runs a task on the given files. There is an index if there is a document. -/
def runFiles (s : FileStore) (timestamp : Text) (task : Task) (grammars : Grammars) (output : Path)
    (clean : Bool) (files : List Path) : FileStore × Except Failure Report :=
  match s.clear clean output with
  | (s, .error e) => (s, .error e)
  | (s, .ok ()) =>
    let (s, outcomes) := s.emitAll timestamp task grammars output files
    let report : Report := { task := task.name, output, outcomes }
    if report.written.isEmpty then (s, .ok report)
    else match s.writeIndex ⟨report.written⟩ output with
      | (s, .error e) => (s, .error e)
      | (s, .ok path) => (s, .ok { report with index := some path })

/-- Runs a task on its files, which are found before the output directory is cleared. -/
def runTask (s : FileStore) (timestamp : Text) (task : Task) (grammars : Grammars) (output : Path)
    (clean : Bool) : FileStore × Except Failure Report :=
  match task.filesIn s with
  | .error e => (s, .error e)
  | .ok files => s.runFiles timestamp task grammars output clean files

end FileStore

end Marginalia
