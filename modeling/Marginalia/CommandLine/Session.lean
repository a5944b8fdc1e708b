import Marginalia.CommandLine.Command
import Marginalia.Document.Outline
import Marginalia.Grammar.Load
import Marginalia.Language
import Marginalia.Run.Summary
import Marginalia.Task.Load

/-!
# Sessions

A session carries out one command on a file store: it holds what was written to the terminal, how
the program ends, and which store is left. Nothing is coloured.

The program ends with 0 if all went well, with 1 if some file failed, and with 2 if the command
could not be carried out.
-/

namespace Marginalia.CommandLine

/-- What a command has led to. -/
structure Session where
  /-- The files. -/
  store : FileStore
  /-- What was written as output. -/
  output : Text := []
  /-- What was written as warnings and errors. -/
  errors : Text := []
  /-- How the program ends. -/
  code : Nat := 0

namespace Session

/-! ### Writing to the terminal -/

/-- Writes a line of output. -/
def say (s : Session) (line : Text) : Session := { s with output := s.output ++ line ++ ['\n'] }

/-- Writes a warning for every failure. -/
def warn (s : Session) (failures : List Failure) : Session :=
  { s with
    errors := s.errors ++ failures.flatMap fun e => "Warning: ".toList ++ e.message ++ ['\n'] }

/-- Writes an error, and ends so. -/
def fail (s : Session) (reason : Text) : Session :=
  { s with errors := s.errors ++ "Error: ".toList ++ reason ++ ['\n'], code := 2 }

/-- Writes a failure between what it kept from being done and its cause, and ends so. -/
def failWith (s : Session) (context : List Text) (e : Failure) : Session :=
  s.fail (Text.join ": ".toList (context ++ e.message :: e.cause?.toList))

/-! ### Commands -/

/-- What a configuration that cannot be read keeps from being done. -/
def cannotLoad (path : Path) : Text := "cannot load ".toList ++ path

/-- The directory searched for grammars: the one asked for, or the one of the configuration. -/
def grammarDirectory (setup : Setup) : Path :=
  setup.grammars.getD <|
    ((Path.parent? setup.configuration).filter (!·.isEmpty)).getD ['.']

/-- The tasks chosen from a configuration. -/
def chosen (c : Configuration) : Choice → Except Failure (List Task)
  | .task name => (c.task name).map ([·])
  | .group name => c.groupTasks name

/-- Runs tasks in order; `passed` says that no file failed so far. A task that fails ends the
session. -/
def runTasks (timestamp : Text) (setup : Setup) (output : Path) (clean : Bool)
    (rendition : Rendition) (s : Session) (passed : Bool) : List Task → Session
  | [] => { s with code := if passed then 0 else 1 }
  | task :: tasks =>
    let (grammars, failures) := s.store.loadGrammars (grammarDirectory setup) task.grammars
    let s := s.warn failures
    match s.store.runTask timestamp task grammars (Path.join output task.name) clean with
    | (store, .error e) =>
      { s with store }.failWith ["task `".toList ++ task.name ++ "` failed".toList] e
    | (store, .ok report) =>
      { s with store }.say (report.render rendition false)
        |>.runTasks timestamp setup output clean rendition (passed && report.passed) tasks

/-- Carries out `run`. -/
def run (s : Session) (timestamp : Text) (choice : Choice) (setup : Setup) (output : Path)
    (clean : Bool) (rendition : Rendition) : Session :=
  match s.store.loadConfiguration setup.configuration with
  | .error e => s.failWith [cannotLoad setup.configuration] e
  | .ok c =>
    match chosen c choice with
    | .error e => s.failWith [] e
    | .ok tasks => runTasks timestamp setup output clean rendition s true tasks

/-- Shows the document of one file. -/
def showDocument (s : Session) (timestamp : Text) (task : Task) (grammars : Grammars) (path : Path)
    (rendition : Rendition) : Session :=
  match s.store.document timestamp task grammars path with
  | .error e => s.failWith [] e
  | .ok d => s.say (d.render rendition false)

/-- Carries out `parse`. Without a task the comment tokens are those of the language of the file. -/
def parse (s : Session) (timestamp : Text) (path : Path) (task : Option Text) (setup : Setup)
    (rendition : Rendition) : Session :=
  match task with
  | some name =>
    match s.store.loadConfiguration setup.configuration with
    | .error e => s.failWith [cannotLoad setup.configuration] e
    | .ok c =>
      match c.task name with
      | .error e => s.failWith [] e
      | .ok task =>
        let (grammars, failures) := s.store.loadGrammars (grammarDirectory setup) task.grammars
        (s.warn failures).showDocument timestamp task grammars path rendition
  | none =>
    match Language.ofPath? path with
    | none => s.fail ("no comment tokens known for ".toList ++ path ++ "; pass --task".toList)
    | some language =>
      s.showDocument timestamp { vocabulary := language.vocabulary } [] path rendition

/-- A name with what there is to say about it. -/
def listed (s : Session) (name about : Text) : Session := s.say (' ' :: ' ' :: name ++ ' ' :: about)

/-- Carries out `list`. -/
def list (s : Session) (configuration : Path) : Session :=
  match s.store.loadConfiguration configuration with
  | .error e => s.failWith [cannotLoad configuration] e
  | .ok c =>
    let s := c.tasks.foldl (fun s t => s.listed t.name t.description) (s.say "Tasks".toList)
    if c.groups.isEmpty then s
    else
      c.groups.foldl (fun s g => s.listed g.name (Text.join ", ".toList g.tasks))
        (s.say "Groups".toList)

/-- Carries out a command on a store. -/
def ofCommand (store : FileStore) (timestamp : Text) (c : Command) : Session :=
  let s : Session := { store }
  match c with
  | .run choice setup output clean rendition => s.run timestamp choice setup output clean rendition
  | .parse path task setup rendition => s.parse timestamp path task setup rendition
  | .list configuration => s.list configuration

/-! ### Command lines -/

/-- The name and version of the program. -/
def versionLine : Text := "emits 0.1.0".toList

/-- How the program is used. -/
def usage : Text := "Usage: emits [--verbose] <run|parse|list> [OPTIONS]".toList

/-- Carries out a command line on a store. -/
def ofWords (store : FileStore) (timestamp : Text) (words : List Text) : Session :=
  let s : Session := { store }
  match Command.ofWords words with
  | .ok c => ofCommand store timestamp c
  | .error .version => s.say versionLine
  | .error .help => s.say usage
  | .error .misuse =>
    { s with errors := "error: ".toList ++ usage ++ ['\n'], code := 2 }

end Session

end Marginalia.CommandLine
