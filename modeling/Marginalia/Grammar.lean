import Marginalia.Grammar.Rules

/-!
# Grammars

A grammar gives structure to plain values: its rules are offered every node that has a value but
no keyword, in files with one of the extensions of the grammar. `GrammarFile` is a grammar as
written, `Grammar` one that is ready to be applied, and `Grammars` a list of them in the order of
application.
-/

namespace Marginalia

/-- A grammar as written in its file. -/
structure GrammarFile where
  /-- The name of the grammar. -/
  name : Text := []
  /-- What the grammar is for. -/
  description : Text := []
  /-- The extensions of the files it applies to, a leading dot allowed. -/
  extensions : List Text := []
  /-- The rules in order. -/
  rules : Grammar.Rules Text := .nil

/-- A grammar with compiled patterns. -/
structure Grammar where
  /-- The name of the grammar. -/
  name : Text := []
  /-- The extensions of the files it applies to, without a leading dot. -/
  extensions : List Text := []
  /-- The rules in order. -/
  rules : Grammar.Rules Pattern := .nil

/-- The grammars of a task, in order. -/
abbrev Grammars := List Grammar

namespace Grammar

/-- An extension without blank ends and leading dots. -/
def plainExtension (e : Text) : Text := (Text.trim e).dropWhile (· == '.')

/-- Compiles a grammar. -/
def compile {ε : Type} (compiler : PatternCompiler ε) (file : GrammarFile) :
    Except (BadPattern ε) Grammar :=
  (file.rules.compile compiler).map fun rules =>
    { name := file.name, extensions := file.extensions.map plainExtension, rules := rules }

/-- The grammar applies to files with this extension. -/
def hasExtension (g : Grammar) (e : Text) : Bool := g.extensions.contains (plainExtension e)

/-- Applies the rules to a node. -/
def apply (g : Grammar) (n : Node) : Node := g.rules.applyTop n

end Grammar

namespace Grammars

/-- Offers a node to every grammar for the extension. Nodes with a keyword, without a value, or
about the file stay as they are. -/
def apply (gs : Grammars) (e : Text) (n : Node) : Node :=
  if n.hasKeyword || !n.hasValue then n
  else (gs.filter (·.hasExtension e)).foldl (fun n g => g.apply n) n

end Grammars

end Marginalia
