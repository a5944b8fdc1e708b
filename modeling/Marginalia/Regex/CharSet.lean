import Marginalia.Text.Blank
import Marginalia.Text.Word
import Marginalia.Regex.Category
import Marginalia.Regex.Error
import Marginalia.Regex.Property
import Marginalia.Regex.Script

/-!
# Sets of characters

A set of characters is written with ranges and the operations of set theory. `foldCase` closes a
set under change of case. `CharSet.named` finds the set for the name of a category, a script or a
property.
-/

namespace Marginalia.Regex

/-- A set of characters. -/
inductive CharSet where
  | ranges (r : Ranges)
  | blank
  | word
  | union (a b : CharSet)
  | inter (a b : CharSet)
  | complement (a : CharSet)
  | foldCase (a : CharSet)
deriving Inhabited

/-- The sets of characters that differ in case only. -/
def caseSetTable : List (List Nat) :=
  (caseSets.toList.splitOn ' ').map fun set => (set.splitOn '-').map Ranges.hexNumber

/-- The characters that differ from `c` in case only, `c` among them. -/
def caseVariants (c : Char) : List Char :=
  match caseSetTable.find? (·.contains c.toNat) with
  | some set => set.map Char.ofNat
  | none => [c]

namespace CharSet

/-- Membership of a character. -/
def contains : CharSet → Char → Bool
  | ranges r, c => r.contains c.toNat
  | blank, c => isBlank c
  | word, c => isWordChar c
  | union a b, c => a.contains c || b.contains c
  | inter a b, c => a.contains c && b.contains c
  | complement a, c => !a.contains c
  | foldCase a, c => (caseVariants c).any a.contains

/-- No character. -/
def empty : CharSet := ranges []

/-- Every character. -/
def any : CharSet := complement empty

/-- A single character. -/
def single (c : Char) : CharSet := ranges [(c.toNat, c.toNat)]

/-- The characters of `a` that are not in `b`. -/
def diff (a b : CharSet) : CharSet := inter a (complement b)

/-- The characters in one of the sets but not in both. -/
def symmetricDiff (a b : CharSet) : CharSet := union (diff a b) (diff b a)

/-- The set, or its complement. -/
def negateIf (negated : Bool) (a : CharSet) : CharSet := if negated then complement a else a

/-- The set given by a line of hexadecimal ranges. -/
def ofHex (table : String) : CharSet := ranges (Ranges.ofHex table)

/-! ### Sets by name -/

/-- The ASCII classes by name. -/
def ascii? (name : List Char) : Option CharSet :=
  [("alnum", "30-39 41-5a 61-7a"), ("alpha", "41-5a 61-7a"), ("ascii", "0-7f"),
    ("blank", "9 20"), ("cntrl", "0-1f 7f"), ("digit", "30-39"), ("graph", "21-7e"),
    ("lower", "61-7a"), ("print", "20-7e"), ("punct", "21-2f 3a-40 5b-60 7b-7e"),
    ("space", "9-d 20"), ("upper", "41-5a"), ("word", "30-39 41-5a 5f 61-7a"),
    ("xdigit", "30-39 41-46 61-66")].lookup (String.ofList name) |>.map ofHex

/-- A name without case, blanks, dashes and underscores, and without a leading `is`. -/
def plainName (name : List Char) : String :=
  let cs := (name.filter fun c => c.toNat < 128 && !(c == ' ' || c == '-' || c == '_')).map
    Char.toLower
  let startsIs := "is".toList.isPrefixOf ((name.take 2).map Char.toLower)
  match startsIs, cs with
  | true, 'i' :: 's' :: rest => String.ofList (if rest == ['c'] then cs else rest)
  | _, _ => String.ofList cs

/-- The line kept under a name. -/
def tableOf? (table : List (List String × String)) (name : String) : Option String :=
  (table.find? fun entry => entry.1.contains name).map Prod.snd

/-- The set of a general category, or of a group of categories. -/
def category? (name : String) : Option CharSet :=
  match name with
  | "any" => some any
  | "ascii" => some (ranges [(0, 0x7f)])
  | "assigned" => (tableOf? categories "cn").map fun t => complement (ofHex t)
  | _ =>
    match tableOf? categories name with
    | some table => some (ofHex table)
    | none => (categoryGroups.find? fun g => g.1.contains name).map fun g =>
        g.2.foldl (fun s member => union s (ofHex ((tableOf? categories member).getD ""))) empty

/-- The set of a script. -/
def script? (name : String) : Option CharSet := (tableOf? scripts name).map ofHex

/-- The set of a property. A few short names are kept for categories. -/
def property? (name : String) : Option CharSet :=
  if name == "cf" || name == "sc" || name == "lc" then none
  else (tableOf? properties name).map ofHex

/-- The set with a given name: a property, a category or a script. -/
def named (name : List Char) : Except PatternError CharSet :=
  let name := plainName name
  match property? name <|> category? name <|> script? name with
  | some s => .ok s
  | none => .error .propertyNotFound

/-- The set of characters for which `key` has the given value. -/
def keyed (key value : List Char) : Except PatternError CharSet :=
  let value := plainName value
  let find (found : Option CharSet) : Except PatternError CharSet :=
    match found with
    | some s => .ok s
    | none => .error .propertyValueNotFound
  match plainName key with
  | "gc" | "generalcategory" => find (category? value)
  | "sc" | "script" | "scx" | "scriptextensions" => find (script? value)
  | _ => .error .propertyNotFound

end CharSet

end Marginalia.Regex
