import Marginalia.CommandLine.Arguments
import Marginalia.Path
import Marginalia.Rendition

/-!
# Commands

`run` runs a task or a group of tasks, `parse` shows the document of one file, and `list` lists
what a configuration holds. `Command.ofWords` reads a command from the words of a command line.
-/

namespace Marginalia.CommandLine

/-- What to run. -/
inductive Choice where
  | task (name : Text)
  | group (name : Text)
deriving DecidableEq, Repr, Inhabited

/-- Where the configuration is and where its grammars are. -/
structure Setup where
  /-- The path of the configuration file. -/
  configuration : Path
  /-- The directory searched for grammars, if it is not the one of the configuration. -/
  grammars : Option Path
deriving DecidableEq, Repr, Inhabited

/-- What the program is asked to do. -/
inductive Command where
  | run (choice : Choice) (setup : Setup) (output : Path) (clean : Bool) (rendition : Rendition)
  | parse (path : Path) (task : Option Text) (setup : Setup) (rendition : Rendition)
  | list (configuration : Path)
deriving DecidableEq, Repr, Inhabited

/-- What a switch stands for. -/
inductive Key where
  | verbose
  | help
  | version
  | task
  | group
  | configuration
  | grammars
  | output
  | keep
  | rendition
deriving DecidableEq, Repr, Inhabited

namespace Key

/-- The switch of a key. -/
def switch : Key → Switch Key
  | verbose => ⟨verbose, "verbose".toList, some 'v', false⟩
  | help => ⟨help, "help".toList, some 'h', false⟩
  | version => ⟨version, "version".toList, some 'V', false⟩
  | task => ⟨task, "task".toList, some 't', true⟩
  | group => ⟨group, "group".toList, some 'g', true⟩
  | configuration => ⟨configuration, "config".toList, some 'c', true⟩
  | grammars => ⟨grammars, "grammar-dir".toList, none, true⟩
  | output => ⟨output, "output".toList, some 'o', true⟩
  | keep => ⟨keep, "no-clean".toList, none, false⟩
  | rendition => ⟨rendition, "format".toList, some 'f', true⟩

end Key

/-! ### Values -/

/-- A path given by a switch, which may not be empty. -/
def path? (a : Arguments Key) (key : Key) : Except Refusal (Option Path) :=
  match a.value? key with
  | some [] => .error .misuse
  | p => .ok p

/-- The rendition asked for, or another one. -/
def renditionOr (a : Arguments Key) (default : Rendition) : Except Refusal Rendition :=
  match a.value? .rendition with
  | none => .ok default
  | some name =>
    match Rendition.ofName? name with
    | none => .error .misuse
    | some r => .ok r

/-- The name of the configuration file if no other is given. -/
def configurationName : Path := "emits.json".toList

/-- The output directory if no other is given. -/
def outputName : Path := "emits".toList

/-- Where the configuration and its grammars are. -/
def setup (a : Arguments Key) : Except Refusal Setup := do
  let configuration ← path? a .configuration
  let grammars ← path? a .grammars
  return ⟨configuration.getD configurationName, grammars⟩

/-! ### Commands -/

/-- The words behind a command, sorted out. -/
def arguments (keys : List Key) (words : List Text) : Except Refusal (Arguments Key) := do
  let a ← Arguments.read ((keys ++ [Key.verbose, Key.help]).map Key.switch) words
  if a.has .help then throw .help else return a

namespace Command

/-- Either a task or a group is run, not both. -/
def choice (a : Arguments Key) : Except Refusal Choice :=
  match a.value? .task, a.value? .group with
  | some name, none => .ok (.task name)
  | none, some name => .ok (.group name)
  | _, _ => .error .misuse

/-- Reads the words behind `run`. -/
def ofRunWords (words : List Text) : Except Refusal Command := do
  let a ← arguments [.task, .group, .configuration, .grammars, .output, .keep, .rendition] words
  let choice ← choice a
  let setup ← setup a
  let output ← path? a .output
  let rendition ← renditionOr a .outline
  if a.operands.isEmpty then
    return run choice setup (output.getD outputName) (!a.has .keep) rendition
  else throw .misuse

/-- Reads the words behind `parse`. -/
def ofParseWords (words : List Text) : Except Refusal Command := do
  let a ← arguments [.task, .configuration, .grammars, .rendition] words
  let setup ← setup a
  let rendition ← renditionOr a .pretty
  match a.operands with
  | [path] =>
    if path.isEmpty then throw .misuse else return parse path (a.value? .task) setup rendition
  | _ => throw .misuse

/-- Reads the words behind `list`. -/
def ofListWords (words : List Text) : Except Refusal Command := do
  let a ← arguments [.configuration] words
  let configuration ← path? a .configuration
  if a.operands.isEmpty then return list (configuration.getD configurationName) else throw .misuse

/-- Reads the words of a command line. Switches of the program itself may stand before the name of
the command, each in a word of its own or sharing a dash; the first that asks for help or for the
version counts. -/
def ofWordsFrom (verbose : Bool) : List Text → Except Refusal Command
  | [] => .error .misuse
  | word :: words =>
    if word == "run".toList then ofRunWords words
    else if word == "parse".toList then ofParseWords words
    else if word == "list".toList then ofListWords words
    else if word == "help".toList then .error .help
    else
      let known := [Key.verbose, .help, .version].map Key.switch
      let before : Arguments Key := if verbose then ⟨[(.verbose, [])], []⟩ else {}
      let given : Except Refusal (Arguments Key × Option Key) :=
        match Arguments.Word.ofText word with
        | .long name attached => before.addLong known name attached
        | .short letters => before.addShort known letters
        | _ => .error .misuse
      match given with
      | .error e => .error e
      | .ok (a, _) =>
        match a.given.find? fun s => s.1 != .verbose with
        | some (.help, _) => .error .help
        | some _ => .error .version
        | none => ofWordsFrom true words

/-- Reads the words of a command line. -/
def ofWords (words : List Text) : Except Refusal Command := ofWordsFrom false words

end Command

end Marginalia.CommandLine
