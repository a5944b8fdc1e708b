import Marginalia.Comment

/-!
# Annotation nodes

A node is one annotation of a source file, or one line of content collected under an annotation. Its
*index* is the depth it asks for: the indentation of its line, changed by the marks on it. Indices
are numbers of 32 bits with a sign; here they are counted without a bound.
-/

namespace Marginalia

/-- One annotation, or one line of collected content. -/
structure Node where
  /-- The line of the source, counted from 1; 0 where there is none. -/
  line : Nat := 0
  /-- The depth asked for. -/
  index : Int := 0
  /-- The line of the node above. -/
  parent : Nat := 0
  /-- The name of the annotation. -/
  keyword : Text := []
  /-- The text of the annotation. -/
  value : Text := []
  /-- The marks given to the annotation, in order. -/
  flags : List Text := []
  /-- The annotation separates what is before it from what is after it. -/
  separator : Bool := false
  /-- The annotation is about the file and stays outside the tree. -/
  configuration : Bool := false
  /-- Plain lines that follow are collected under the node. -/
  appending : Bool := false
  /-- The collected lines become the value of the node. -/
  collapsing : Bool := false
  /-- Each collected line keeps a line of its own. -/
  newline : Bool := false
  /-- The role of the line. -/
  role : Role := {}
deriving DecidableEq, Repr, Inhabited

namespace Node

/-- The node names something in the tree. -/
def hasKeyword (n : Node) : Bool := !n.keyword.isEmpty && !n.configuration

/-- The node says something in the tree. -/
def hasValue (n : Node) : Bool := !n.value.isEmpty && !n.configuration

/-- The node is worth a place in the tree. -/
def hasData (n : Node) : Bool := n.hasKeyword || n.hasValue || n.separator

end Node

end Marginalia
