import Marginalia.Json.Value

/-!
# Renditions

Results are shown as an outline for people, or as JSON in one line or on many.
-/

namespace Marginalia

/-- How a result is shown. -/
inductive Rendition where
  | outline
  | compact
  | pretty
deriving DecidableEq, Repr, Inhabited

namespace Rendition

/-- All renditions. -/
def all : List Rendition := [outline, compact, pretty]

/-- The name by which a rendition is asked for. -/
def name : Rendition → Text
  | outline => "text".toList
  | compact => "json".toList
  | pretty => "json-pretty".toList

/-- The rendition with a name. -/
def ofName? (t : Text) : Option Rendition := all.find? fun r => r.name == t

/-- A result shown, given its outline and its JSON. -/
def apply (r : Rendition) (outlined : Text) (json : Json.Value) : Text :=
  match r with
  | outline => outlined
  | compact => json.write .compact
  | pretty => json.write .spaces

end Rendition

end Marginalia
