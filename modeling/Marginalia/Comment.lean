import Marginalia.Text

/-!
# Comment lines

A *vocabulary* names the four comment tokens of a language; a blank token is switched off. Each
line of a source file gets a *role*, which depends on the line, the vocabulary and whether the
line before left a block comment open. The role of a line is all that is carried to the next one.

* `Vocabulary.classify`: role, indentation and bare text of one line.
* `Role.continuesBlock`: the next line is inside a block comment.
-/

namespace Marginalia

/-- The comment tokens of a language. -/
structure Vocabulary where
  /-- Opens a block comment. -/
  blockOpen : Text := []
  /-- May start each further line of a block comment. -/
  blockLine : Text := []
  /-- Closes a block comment. -/
  blockClose : Text := []
  /-- Starts a comment that ends with its line. -/
  inline : Text := []
deriving DecidableEq, Repr, Inhabited

/-- The parts of a comment found on one line. -/
structure Role where
  /-- The line opens a block. -/
  blockOpen : Bool := false
  /-- The line began inside a block. -/
  blockLine : Bool := false
  /-- The line closes a block. -/
  blockClose : Bool := false
  /-- The line is a comment of its own. -/
  inline : Bool := false
deriving DecidableEq, Repr, Inhabited

namespace Role

/-- Some part of a comment is on the line. -/
def isComment (r : Role) : Bool := r.blockOpen || r.blockLine || r.blockClose || r.inline

/-- A block is open after the line. -/
def continuesBlock (r : Role) : Bool := r.blockOpen || (r.blockLine && !r.blockClose)

end Role

/-- A line with its role, its indentation and what is left of it without comment tokens. -/
structure CommentLine where
  /-- The role of the line. -/
  role : Role := {}
  /-- The number of blank characters in front. -/
  indent : Int := 0
  /-- The text without comment tokens. -/
  text : Text := []
deriving DecidableEq, Repr, Inhabited

namespace Vocabulary

/-- What follows `token` at the start of the text. A blank token is found nowhere. -/
def afterToken? (token text : Text) : Option Text :=
  if Text.isBlank token then none else (token.isPrefixOf? text).map Text.trimStart

/-- What stands before `token` at the end of the text. A blank token is found nowhere. -/
def beforeToken? (token text : Text) : Option Text :=
  if Text.isBlank token then none else (token.isSuffixOf? text).map Text.trim

/-- The part of a line's role found by token: whether a token was there, and the text without it. -/
def strip (found : Option Text) (text : Text) : Bool × Text :=
  match found with
  | some rest => (true, rest)
  | none => (false, text)

/-- Classifies a line, given the role of the line before. Blocks do not nest, so inside a block the
open token means nothing; a block opened and closed on one line counts as an inline comment. -/
def classify (v : Vocabulary) (previous : Role) (raw : Text) : CommentLine :=
  let inside := previous.continuesBlock
  let (inline, text) := strip (afterToken? v.inline (Text.trim raw)) (Text.trim raw)
  let (opens, text) := strip (if inside then none else afterToken? v.blockOpen text) text
  let (closes, text) := strip (beforeToken? v.blockClose text) text
  let role : Role :=
    if opens && closes then { inline := true }
    else { blockOpen := opens, blockClose := closes, inline := inline }
  { role := { role with blockLine := inside }
    indent := Text.indent raw
    text := if inside then (afterToken? v.blockLine text).getD text else text }

end Vocabulary

end Marginalia
