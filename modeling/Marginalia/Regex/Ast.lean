import Marginalia.Text

/-!
# Patterns as written

The tree of a pattern, before flags are applied and names of character sets are looked up.
-/

namespace Marginalia.Regex

/-- A change of flags: each flag is switched on, off, or left as it is. -/
structure FlagChange where
  /-- Letters match in either case. -/
  ignoreCase : Option Bool := none
  /-- `^` and `$` match at lines. -/
  multiLine : Option Bool := none
  /-- The dot matches line feeds. -/
  dotAll : Option Bool := none
  /-- Repetitions are lazy unless marked. -/
  swapGreed : Option Bool := none
  /-- Classes and boundaries know all of Unicode. -/
  unicode : Option Bool := none
  /-- A carriage return belongs to the line end. -/
  crlf : Option Bool := none
  /-- Blanks and comments in the pattern are skipped. -/
  skipBlanks : Option Bool := none
deriving DecidableEq, Repr, Inhabited

/-- Places in a text. -/
inductive Anchor where
  | lineStart
  | lineEnd
  | textStart
  | textEnd
  | wordBoundary
  | notWordBoundary
  | wordStart
  | wordEnd
  | wordStartHalf
  | wordEndHalf
deriving DecidableEq, Repr, Inhabited

/-- The classes with a letter of their own. -/
inductive PerlClass where
  | digit
  | space
  | word
deriving DecidableEq, Repr, Inhabited

/-- The name of a character set: alone, or the value of a key. -/
inductive ClassName where
  | single (name : Text)
  | keyed (key value : Text)
deriving DecidableEq, Repr, Inhabited

/-- What may stand between brackets. -/
inductive ClassSet where
  | empty
  | literal (c : Char)
  | range (lo hi : Char)
  | ascii (negated : Bool) (name : Text)
  | perl (negated : Bool) (kind : PerlClass)
  | unicode (negated : Bool) (name : ClassName)
  | bracket (negated : Bool) (set : ClassSet)
  | union (a b : ClassSet)
  | inter (a b : ClassSet)
  | diff (a b : ClassSet)
  | symmetricDiff (a b : ClassSet)
deriving DecidableEq, Repr, Inhabited

/-- A pattern as written. -/
inductive Ast where
  | empty
  | flags (change : FlagChange)
  /-- A character; `byte` if it was written as a byte with two hexadecimal digits. -/
  | literal (c : Char) (byte : Bool)
  | dot
  | anchor (kind : Anchor)
  | perl (negated : Bool) (kind : PerlClass)
  | unicode (negated : Bool) (name : ClassName)
  | bracket (negated : Bool) (set : ClassSet)
  | repetition (least : Nat) (most : Option Nat) (greedy : Bool) (sub : Ast)
  | capture (index : Nat) (name : Option Text) (sub : Ast)
  | group (change : FlagChange) (sub : Ast)
  | concat (a b : Ast)
  | alternation (a b : Ast)
deriving DecidableEq, Repr, Inhabited

namespace ClassSet

/-- How deep brackets and set operations are nested. -/
def nesting : ClassSet → Nat
  | bracket _ s => s.nesting + 1
  | union a b => max a.nesting b.nesting
  | inter a b | diff a b | symmetricDiff a b => max a.nesting b.nesting + 1
  | _ => 0

end ClassSet

namespace Ast

/-- The parts of a concatenation. -/
def ofParts : List Ast → Ast
  | [] => empty
  | [a] => a
  | a :: rest => concat a (ofParts rest)

/-- The branches of an alternation. -/
def ofBranches : List Ast → Ast
  | [] => empty
  | [a] => a
  | a :: rest => alternation a (ofBranches rest)

/-- The way down to a node: as part of a concatenation or an alternation that is already counted, or
from elsewhere. -/
inductive Above where
  | concat
  | alternation
  | other
deriving DecidableEq, Repr

/-- How deep groups, repetitions, brackets, concatenations and alternations are nested. A chain of
parts, or of branches, counts once. -/
def nestingBelow : Above → Ast → Nat
  | _, empty | _, flags _ | _, literal .. | _, dot | _, anchor _ | _, perl .. | _, unicode .. => 0
  | _, bracket _ s => s.nesting + 1
  | _, repetition _ _ _ a => a.nestingBelow .other + 1
  | _, capture _ _ a => a.nestingBelow .other + 1
  | _, group _ a => a.nestingBelow .other + 1
  | above, concat a b =>
    max (a.nestingBelow .other) (b.nestingBelow .concat) + if above = .concat then 0 else 1
  | above, alternation a b =>
    max (a.nestingBelow .other) (b.nestingBelow .alternation) +
      if above = .alternation then 0 else 1

/-- The depth of nesting of a pattern. -/
def nesting (a : Ast) : Nat := a.nestingBelow .other

end Ast

end Marginalia.Regex
