import Marginalia.Failure
import Marginalia.Grammar.Json
import Marginalia.Regex.Program

/-!
# Loading grammars

A grammar called `name` is kept in a file `emits.grammar.name.json`, anywhere below the directory
searched. A grammar that does not load is reported and does without.
-/

namespace Marginalia

namespace Grammar

/-- Reads the text of a grammar file and compiles it. What fails is either the reading or a
pattern. -/
def readWith {ε : Type} (compiler : PatternCompiler ε) (t : Text) :
    Except (Json.Error ⊕ BadPattern ε) Grammar :=
  match GrammarFile.decoder.run t with
  | .error e => .error (.inl e)
  | .ok file => (compile compiler file).mapError .inr

/-- Reads a grammar whose patterns are regular expressions. -/
def read (t : Text) : Except Failure Grammar :=
  (readWith Regex.compile t).mapError (Sum.elim .json fun bad => .pattern bad.pattern bad.reason)

/-- The name of the file of a grammar. -/
def fileName (name : Text) : Text := "emits.grammar.".toList ++ name ++ ".json".toList

end Grammar

namespace FileStore

/-- The file of a grammar below a directory. -/
def grammarPath? (s : FileStore) (directory : Path) (name : Text) : Option Path :=
  ((s.walk directory).find? fun (p, i) =>
    i != .directory && Path.fileName? p == some (Grammar.fileName name)).map Prod.fst

/-- Loads a grammar from below a directory. -/
def loadGrammar (s : FileStore) (directory : Path) (name : Text) : Except Failure Grammar :=
  match s.grammarPath? directory name with
  | none =>
    .error (.grammar name (Grammar.fileName name ++ " not found under ".toList ++ directory))
  | some p =>
    match s.readText p with
    | .error e => .error (.read p e)
    | .ok t =>
      match Grammar.read t with
      | .error e => .error (.grammar name e.message)
      | .ok g => .ok g

/-- Loads grammars in order; those that do not load are reported instead. -/
def loadGrammars (s : FileStore) (directory : Path) : List Text → Grammars × List Failure
  | [] => ([], [])
  | name :: names =>
    let (grammars, failures) := s.loadGrammars directory names
    match s.loadGrammar directory name with
    | .error e => (grammars, e :: failures)
    | .ok g => (g :: grammars, failures)

end FileStore

end Marginalia
