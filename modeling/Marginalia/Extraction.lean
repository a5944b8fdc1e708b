import Marginalia.Annotation
import Marginalia.Grammar
import Marginalia.Path
import Marginalia.Task
import Marginalia.Text.Utf8
import Marginalia.Tree

/-!
# Extraction

The annotations of a source file are collected line by line. An `Extractor` holds what stays the
same throughout a file, an `Extract` what has been collected so far.

* `Extractor.feed` takes one line. A comment line gives a node for the tree, or one about the
  file, or nothing; a plain line becomes a leaf below the nearest node that collects plain lines.
* `Extractor.ofText` reads a text, `Extractor.ofBytes` the bytes of a file.
-/

namespace Marginalia

/-- What stays the same while a file is read. -/
structure Extractor where
  /-- The comment tokens. -/
  vocabulary : Vocabulary := {}
  /-- Collected plain lines show their text. -/
  showSource : Bool := false
  /-- The grammars offered to plain values. -/
  grammars : Grammars := []
  /-- The extension of the file. -/
  extension : Text := []

/-- What has been collected from the lines read so far. -/
structure Extract where
  /-- The annotations in their places. -/
  tree : Tree := {}
  /-- The annotations about the file, in order. -/
  configuration : List Node := []
  /-- The role of the last line. -/
  role : Role := {}
  /-- The number of lines read. -/
  lines : Nat := 0
deriving DecidableEq, Repr, Inhabited

namespace Extractor

/-- The extractor of a task for files with an extension. -/
def ofTask (task : Task) (grammars : Grammars) (extension : Text) : Extractor :=
  { vocabulary := task.vocabulary, showSource := task.showSource, grammars, extension }

/-- The node of a line, after the grammars have been offered it. -/
def nodeOf (x : Extractor) (previous : Role) (lineNumber : Nat) (raw : Text) : Node :=
  x.grammars.apply x.extension (Node.ofLine (x.vocabulary.classify previous raw) lineNumber)

/-- The leaf for a plain line below a node. -/
def plainLeaf (x : Extractor) (above : Node) (lineNumber : Nat) (raw : Text) : Node :=
  { line := lineNumber
    index := above.index + 1
    value := if x.showSource then Text.trim raw else []
    role := { inline := true } }

/-- Takes the next line. -/
def feed (x : Extractor) (s : Extract) (raw : Text) : Extract :=
  let lineNumber := s.lines + 1
  let node := x.nodeOf s.role lineNumber raw
  let s := { s with role := node.role, lines := lineNumber }
  if node.role.isComment then
    if node.configuration then { s with configuration := s.configuration ++ [node] }
    else if node.hasData then { s with tree := s.tree.insert node }
    else s
  else match s.tree.appendingTarget with
    | none => s
    | some target =>
      { s with tree := s.tree.append target (x.plainLeaf (s.tree.get target) lineNumber raw) }

/-- Takes lines in order, after those of `s`. -/
def feedAll (x : Extractor) (s : Extract) (lines : List Text) : Extract := lines.foldl x.feed s

/-- Reads a text. -/
def ofText (x : Extractor) (t : Text) : Extract := x.feedAll {} (Text.lines t)

/-- The lines of a file: the pieces between line feeds, without the empty piece after a final one.
A carriage return at the end of a piece is dropped, and bytes that are no characters are replaced.
-/
def byteLines (bs : Utf8.Bytes) : List Text :=
  let pieces := bs.splitOn 10
  let pieces := if pieces.getLast? = some [] then pieces.dropLast else pieces
  pieces.map fun piece =>
    Utf8.decodeLossy (if piece.getLast? = some 13 then piece.dropLast else piece)

/-- Reads the bytes of a file. -/
def ofBytes (x : Extractor) (bs : Utf8.Bytes) : Extract := x.feedAll {} (byteLines bs)

end Extractor

/-- What was extracted from a file. -/
structure Parsed where
  /-- The path of the file. -/
  path : Path := []
  /-- The annotations in their places. -/
  tree : Tree := {}
  /-- The annotations about the file, in order. -/
  configuration : List Node := []
deriving DecidableEq, Repr, Inhabited

/-- What was extracted, with the path of the file. -/
def Extract.parsed (s : Extract) (path : Path) : Parsed :=
  { path, tree := s.tree, configuration := s.configuration }

end Marginalia
