import Marginalia.Path
import Marginalia.Tree

/-!
# Documents

A document is what is kept of a source file: where the file is, its annotations about itself, and
its annotation tree as a forest of entries. An entry is a node without what was only needed to
build the tree.
-/

namespace Marginalia

/-- What a document says of the source file. -/
structure Origin where
  /-- The directory of the file. -/
  directory : Text := []
  /-- The name of the file without its extension. -/
  name : Text := []
  /-- The extension of the file. -/
  extension : Text := []
  /-- When the document was made. -/
  timestamp : Text := []
deriving DecidableEq, Repr, Inhabited

/-- The origin of a document about the file at `path`; a file without a directory is in `.`. -/
def Origin.ofPath (path : Path) (timestamp : Text) : Origin :=
  { directory := ((Path.parent? path).filter (!·.isEmpty)).getD ['.']
    name := (Path.stem? path).getD []
    extension := Path.extension path
    timestamp }

/-- One annotation of a document. -/
structure Entry where
  /-- The line of the entry above. -/
  parent : Nat := 0
  /-- The line of the source; 0 where there is none. -/
  line : Nat := 0
  /-- The depth asked for. -/
  index : Int := 0
  /-- The name of the annotation. -/
  keyword : Text := []
  /-- The text of the annotation. -/
  value : Text := []
  /-- The annotation separates what is before it from what is after it. -/
  separator : Bool := false
  /-- The marks given to the annotation, in order. -/
  flags : List Text := []
deriving DecidableEq, Repr, Inhabited

/-- What a document keeps of a node. -/
def Entry.ofNode (n : Node) : Entry :=
  { parent := n.parent, line := n.line, index := n.index, keyword := n.keyword, value := n.value
    separator := n.separator, flags := n.flags }

/-- What is kept of a source file. -/
structure Document where
  /-- The source file. -/
  origin : Origin := {}
  /-- The annotations about the file. -/
  configuration : Forest Entry := .nil
  /-- The annotation tree. -/
  data : Forest Entry := .nil
deriving DecidableEq, Repr, Inhabited

/-- The document of a tree and the nodes about its file. -/
def Document.ofTree (origin : Origin) (tree : Tree) (configuration : List Node) : Document :=
  { origin
    configuration := .ofNodes (configuration.map Entry.ofNode)
    data := tree.forest.map Entry.ofNode }

end Marginalia
