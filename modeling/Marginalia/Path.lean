import Marginalia.Text

/-!
# Paths

A path is a text; its *components* are the root, a leading `.`, each `..`, and the names between
slashes, other dots and empty names left out.

* `parent?`, `stem?` and `extension?` ignore slashes and dots behind the last component.
* `resolve` walks the components by name alone: a `..` takes the last name back, or vanishes.
* `documentPath` puts the resolved source below an output directory, so the result never leaves it.
-/

namespace Marginalia

/-- A path as written. -/
abbrev Path := Text

namespace Path

/-- A step of a path. -/
inductive Component where
  | root
  | current
  | parent
  | name (n : Text)
deriving DecidableEq, Repr, Inhabited

/-- The component written between two slashes, if any. -/
def component? (piece : Text) : Option Component :=
  if piece.isEmpty || piece == ['.'] then none
  else if piece == ['.', '.'] then some .parent
  else some (.name piece)

/-- The path starts at the root. -/
def isAbsolute (p : Path) : Bool := p.head? == some '/'

/-- The components of a path. -/
def components (p : Path) : List Component :=
  let pieces := p.splitOn '/'
  (if isAbsolute p then [.root]
    else if pieces.head? == some ['.'] then [.current] else []) ++ pieces.filterMap component?

/-- The path without slashes and dots behind its last component; `first` is the first piece. -/
def trimPieces : List Text → List Text
  | [] => []
  | [piece] => [piece]
  | first :: rest =>
    first :: (rest.reverse.dropWhile fun piece => (component? piece).isNone).reverse

/-- The last component. -/
def last? (p : Path) : Option Component := (components p).getLast?

/-- The path one component up, as it is written; none for the root and for the empty path. -/
def parent? (p : Path) : Option Path :=
  match last? p with
  | none | some .root => none
  | some _ =>
    let up := trimPieces (trimPieces (p.splitOn '/')).dropLast
    some <| match up with
      | [[]] => if isAbsolute p then ['/'] else []
      | _ => Text.join ['/'] up

/-- The name that a path ends in; none if it ends in a root, a dot or two. -/
def fileName? (p : Path) : Option Text :=
  match last? p with
  | some (.name n) => some n
  | _ => none

/-- A file name cut at its last dot: the part before it and the part after it. A name without a dot,
or with its only dot in front, is not cut. -/
def cutName (name : Text) : Text × Option Text :=
  match Text.cutAt '.' name.reverse with
  | none => (name, none)
  | some (_, []) => (name, none)
  | some (after, before) => (before.reverse, some after.reverse)

/-- The file name without its extension. -/
def stem? (p : Path) : Option Text := (fileName? p).map fun n => (cutName n).1

/-- The extension of the file name. -/
def extension? (p : Path) : Option Text := (fileName? p).bind fun n => (cutName n).2

/-- The extension of the file name, empty if there is none. -/
def extension (p : Path) : Text := (extension? p).getD []

/-- The path `q` as seen from the directory `p`. -/
def join (p q : Path) : Path :=
  if isAbsolute q then q
  else if p.isEmpty || p.getLast? == some '/' then p ++ q
  else p ++ '/' :: q

/-! ### Documents -/

/-- Walks one component: `names` have been walked so far, the last one first. -/
def walk (names : List Text) : Component → List Text
  | .name n => n :: names
  | .parent => names.tail
  | _ => names

/-- The names that remain when each `..` takes back the name before it. -/
def resolve (cs : List Component) : List Text := (cs.foldl walk []).reverse

/-- The ending of a document. -/
def documentSuffix : Text := ".json".toList

/-- Where the document of a source goes below an output directory. -/
def documentPath (output source : Path) : Path :=
  join output (Text.join ['/'] (resolve (components source)) ++ documentSuffix)

end Path

end Marginalia
