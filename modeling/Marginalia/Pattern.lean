import Marginalia.Text

/-!
# Patterns

A pattern finds its first match in a text and tells what its named groups captured. Grammars use
nothing else of a pattern, so they are stated over any `Pattern`; a *compiler* reads patterns from
their text.
-/

namespace Marginalia

/-- What the named groups of a match captured; groups that took no part are left out. -/
structure Captures where
  /-- Names with the captured texts. -/
  named : List (Text × Text) := []
deriving DecidableEq, Repr, Inhabited

namespace Captures

/-- The text captured under a name. -/
def text? (c : Captures) (name : Text) : Option Text := c.named.lookup name

end Captures

/-- A pattern that is ready to be searched for. -/
structure Pattern where
  /-- The names of its groups, in the order of their opening. -/
  names : List Text
  /-- The captures of the first match in a text. -/
  match? : Text → Option Captures

/-- Reads patterns from their text, or tells what is wrong with the text. -/
abbrev PatternCompiler (ε : Type) := Text → Except ε Pattern

end Marginalia
