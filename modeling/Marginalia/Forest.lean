/-!
# Ordered forests

An ordered forest is empty, or a first tree (its root and the forest under the root) followed by
the trees after it. `preorder` lists the nodes with their depth, `flatten` lists them alone, and
`ofList` and `trees` go between a forest and the list of its trees.
-/

namespace Marginalia

/-- A finite ordered forest with nodes of type `α`. -/
inductive Forest (α : Type) where
  | nil
  | cons (root : α) (under rest : Forest α)
deriving DecidableEq, Repr, Inhabited

namespace Forest

variable {α β : Type}

/-- The nodes in pre-order, with their depth below `depth`. -/
def preorderFrom (depth : Nat) : Forest α → List (Nat × α)
  | nil => []
  | cons a under rest => (depth, a) :: under.preorderFrom (depth + 1) ++ rest.preorderFrom depth

/-- The nodes in pre-order, with their depth; roots have depth 1. -/
def preorder (f : Forest α) : List (Nat × α) := f.preorderFrom 1

/-- The nodes in pre-order. -/
def flatten : Forest α → List α
  | nil => []
  | cons a under rest => a :: under.flatten ++ rest.flatten

/-- The same forest with every node changed by `g`. -/
def map (g : α → β) : Forest α → Forest β
  | nil => nil
  | cons a under rest => cons (g a) (under.map g) (rest.map g)

/-- The trees of the forest, each as its root and the forest under it. -/
def trees : Forest α → List (α × Forest α)
  | nil => []
  | cons a under rest => (a, under) :: rest.trees

/-- The forest of the given trees. -/
def ofList : List (α × Forest α) → Forest α
  | [] => nil
  | (a, under) :: rest => cons a under (ofList rest)

/-- The forest of single nodes. -/
def ofNodes (as : List α) : Forest α := ofList (as.map fun a => (a, nil))

/-- The number of trees. -/
def count (f : Forest α) : Nat := f.trees.length

/-- The forest has no trees. -/
def isEmpty : Forest α → Bool
  | nil => true
  | cons .. => false

/-! ### Small laws -/

@[simp] theorem ofList_trees (f : Forest α) : ofList f.trees = f := by
  induction f with
  | nil => rfl
  | cons a under rest _ ih => simp [trees, ofList, ih]

@[simp] theorem flatten_map (g : α → β) (f : Forest α) :
    (f.map g).flatten = f.flatten.map g := by
  induction f with
  | nil => rfl
  | cons a under rest ih₁ ih₂ => simp [map, flatten, ih₁, ih₂]

end Forest

end Marginalia
