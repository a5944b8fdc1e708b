import Marginalia.Tree

/-!
# Collapsing

A node marked as collapsing takes the values of all nodes below it as its own value and becomes a
leaf.

* `dedent` takes away the indentation that the lines of a text share.
* `Tree.collapsedValue` joins the values below a node, each on a line of its own if the node says
  so.
* `Tree.collapse` collapses every marked node that is not below another one.
-/

namespace Marginalia

/-! ### Margins -/

namespace Text

/-- The number of spaces in front. -/
def spaces (t : Text) : Nat := (t.takeWhile (· == ' ')).length

/-- The least number of spaces in front of the lines that are not blank. -/
def margin (ls : List Text) : Nat :=
  ((ls.filter (!isBlank ·)).map spaces).min?.getD 0

/-- The line without the first `n` characters; a blank line becomes empty. -/
def cutMargin (n : Nat) (l : Text) : Text := if isBlank l then [] else l.drop n

/-- Takes the common margin away from the lines of a text; blank lines and white space at the end
are lost. -/
def dedent (t : Text) : Text :=
  trimEnd (join ['\n'] ((lines t).map (cutMargin (margin (lines t)))))

end Text

namespace Tree

/-- A value on a line of its own, indented by its index. -/
def valueLine (n : Node) : Text := '\n' :: List.replicate n.index.toNat ' ' ++ n.value

/-- The values of the nodes below `id` in one text. -/
def collapsedValue (t : Tree) (id : Nat) : Text :=
  let below := (t.descendants id).map t.get
  if (t.get id).newline then Text.dedent (below.flatMap valueLine).tail
  else below.flatMap (·.value)

/-- Makes a node a leaf with the values below it. -/
def collapseNode (t : Tree) (id : Nat) : Tree :=
  (t.set id { t.get id with
    value := t.collapsedValue id, collapsing := false, appending := false }).clearChildren id

/-- Collapses the marked nodes among the given ones, and below the others; `n` bounds the length
of a path through the nodes. -/
def collapseWithin : Nat → List Nat → Tree → Tree
  | 0, _, t => t
  | _ + 1, [], t => t
  | n + 1, id :: ids, t =>
    collapseWithin n ids <|
      if (t.get id).collapsing then t.collapseNode id
      else collapseWithin n (t.children id) t

/-- Collapses every marked node that is not below another one. -/
def collapse (t : Tree) : Tree := collapseWithin t.size (t.children root) t

end Tree

end Marginalia
