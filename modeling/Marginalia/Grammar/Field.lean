import Marginalia.Node

/-!
# Fields that a grammar may set

A grammar fills in fields of a node from text. Numbers that cannot be read count as 0, truth is
written `1`, `t` or `true`, and flags stand apart by commas.
-/

namespace Marginalia.Grammar

/-- A field of a node that a grammar may set, in the order of their names in files. -/
inductive Field where
  | value
  | keyword
  | index
  | line
  | parent
  | separator
  | flags
deriving DecidableEq, Repr, Inhabited

namespace Field

/-- All fields in order. -/
def all : List Field := [value, keyword, index, line, parent, separator, flags]

/-- The name of a field in a grammar file. -/
def name : Field → Text
  | value => "value".toList
  | keyword => "keyword".toList
  | index => "index".toList
  | line => "line".toList
  | parent => "parent".toList
  | separator => "separator".toList
  | flags => "flags".toList

/-- The field with a given name. -/
def ofName? (t : Text) : Option Field := all.find? fun f => f.name == t

/-- The place of a field in the order of fields. -/
def rank : Field → Nat
  | value => 0
  | keyword => 1
  | index => 2
  | line => 3
  | parent => 4
  | separator => 5
  | flags => 6

/-- The text means yes. -/
def readBool (t : Text) : Bool :=
  let word := (Text.trim t).map Char.toLower
  word == "1".toList || word == "t".toList || word == "true".toList

/-- Fills in the field of a node from a text. -/
def assign (f : Field) (n : Node) (t : Text) : Node :=
  match f with
  | value => { n with value := t }
  | keyword => { n with keyword := t }
  | index => { n with index := (Text.readInt? (Text.trim t)).getD 0 }
  | line => { n with line := (Text.readNat? (Text.trim t)).getD 0 }
  | parent => { n with parent := (Text.readNat? (Text.trim t)).getD 0 }
  | separator => { n with separator := readBool t }
  | flags => { n with flags := Text.commaPieces t }

@[simp] theorem ofName?_name (f : Field) : ofName? f.name = some f := by
  cases f <;> decide

end Field

end Marginalia.Grammar
