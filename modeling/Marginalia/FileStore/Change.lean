import Marginalia.FileStore

/-!
# Changes of a store

What has to be done to a store to make it another one: items that are gone are removed, those
below a directory before the directory, and then items that are new or different are put, a
directory before what is in it.
-/

namespace Marginalia.FileStore

/-- A single change. -/
inductive Change where
  | remove (l : Location) (i : Item)
  | put (l : Location) (i : Item)
deriving DecidableEq, Repr, Inhabited

/-- The items of a store, those with shorter locations first. -/
def topDown (s : FileStore) : List (Location × Item) :=
  s.items.mergeSort fun a b => a.1.length ≤ b.1.length

/-- The changes that lead from one store to another. An item that gives way to one of another kind
is removed first. -/
def changes (before after : FileStore) : List Change :=
  let gone := before.topDown.reverse.filter fun (l, i) =>
    match after.get? l with
    | none => true
    | some j => (i == .directory) != (j == .directory)
  let new := after.topDown.filter fun (l, i) => before.get? l != some i
  (gone.map fun (l, i) => .remove l i) ++ new.map fun (l, i) => .put l i

end Marginalia.FileStore
