import Marginalia.Proofs.Tree.Growth

/-!
# Where a new node goes

A tree arises by attaching nodes in two ways (`Attachment`): by their index, or below the node that
collects plain lines. Whatever has been attached, the indices rise along the edge of the tree, the
root set apart, so at most one node of the edge has a given index.

Where the last node is not the place for a new index, the place is above the edge node that has this
index, or else above the nearest one that is less deep, or else the root (`placement_attachAll`).
The climb of `placement` does not tell these cases apart: it stops at the first node that is not
deeper.
-/

namespace Marginalia.Tree

variable {t : Tree} {a b : Nat} {index : Int}

/-! ### Trees that arise by attaching nodes -/

namespace WellFormed

end WellFormed

/-! ### The rule -/

end Marginalia.Tree
