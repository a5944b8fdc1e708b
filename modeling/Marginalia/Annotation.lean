import Marginalia.Node
import Marginalia.Text.Alphanumeric

/-!
# The notation of an annotation

An annotation is written as `.keyword` with marks behind it and a value after a space:

* `<` and `>` lower and raise the index, first all `<`, then all `>`;
* a list of flags stands between backticks, apart by commas;
* `.emits.name` at index 0 is about the file, `..name` is a separator, a backslash makes the line
  literal, and a value that starts with `...` makes the node collect the lines below it.

`KeywordLine.ofText` reads keyword, value, flags and index, and `KeywordLine.toText` writes them.
`Node.ofLine` turns a classified line into a node.
-/

namespace Marginalia

/-- What an annotation line says. -/
structure KeywordLine where
  /-- The name of the annotation. -/
  keyword : Text := []
  /-- The text of the annotation. -/
  value : Text := []
  /-- The marks given to the annotation. -/
  flags : List Text := []
  /-- The index after the marks on it. -/
  index : Int := 0
deriving DecidableEq, Repr, Inhabited

namespace KeywordLine

/-- The characters of a keyword: letters, numbers and the dot. -/
def isKeywordChar (c : Char) : Bool := isAlphanumeric c || c == '.'

/-- The flags written between backticks: what is neither a letter, a number nor a comma is passed
over, and so are empty flags. Without both backticks there are no flags. -/
def readFlags (marks : Text) : List Text :=
  match marks with
  | '`' :: inner =>
    if inner.getLast? = some '`' then
      ((inner.dropLast.filter fun c => isAlphanumeric c || c == ',').splitOn ',').filter
        (!·.isEmpty)
    else []
  | _ => []

/-- Reads the keyword and the marks behind it. The marks are counted one by one, and the index is
the one meant where no number on the way leaves 32 bits. -/
def readHead (head : Text) (index : Int) : KeywordLine :=
  let marks := head.dropWhile isKeywordChar
  let raised := marks.dropWhile (· == '<')
  { keyword := head.takeWhile isKeywordChar
    flags := readFlags (raised.dropWhile (· == '>'))
    index := index - (marks.takeWhile (· == '<')).length + (raised.takeWhile (· == '>')).length }

/-- Reads an annotation from a text, given the index of its line. What stands before the first dot
does not matter; without a dot there is no annotation. -/
def ofText (line : Text) (index : Int) : KeywordLine :=
  match Text.cutAt '.' line with
  | none => { index := index }
  | some (_, region) =>
    match Text.cutAt ' ' region with
    | none => readHead (Text.trim region) index
    | some (head, value) => { readHead (Text.trim head) index with value := Text.trim value }

/-- Writes an annotation with `outdents` marks `<` and `indents` marks `>`. -/
def toText (k : KeywordLine) (outdents indents : Nat) : Text :=
  '.' :: k.keyword ++ List.replicate outdents '<' ++ List.replicate indents '>' ++
    (if k.flags.isEmpty then [] else '`' :: Text.join [','] k.flags ++ ['`']) ++
    (if k.value.isEmpty then [] else ' ' :: k.value)

end KeywordLine

namespace Node

/-- The keyword prefix of annotations about the file. -/
def configurationMark : Text := "emits.".toList

/-- A value with this start makes a node collect the lines below it. -/
def appendingMark : Text := "...".toList

/-- The node of a classified line. A line that is no comment gives a node without data. -/
def ofLine (l : CommentLine) (lineNumber : Nat) : Node :=
  let bare : Node := { line := lineNumber, index := l.indent, role := l.role }
  if !l.role.isComment then bare
  else
    let k := KeywordLine.ofText l.text l.indent
    let node := { bare with
      keyword := k.keyword, value := k.value, flags := k.flags, index := k.index }
    if node.index == 0 && configurationMark.isPrefixOf node.keyword then
      { node with keyword := node.keyword.drop configurationMark.length, configuration := true }
    else match node.keyword with
      | '.' :: rest => { node with keyword := rest, separator := true }
      | keyword => match l.text with
        | '\\' :: literal => { node with index := node.index + 1, keyword := [], value := literal }
        | text =>
          if appendingMark.isPrefixOf node.value then
            let mark := node.value.drop appendingMark.length
            { node with
              value := []
              appending := true
              collapsing := mark.getLast? == some ':'
              newline := "::".toList.isSuffixOf mark }
          else if keyword.isEmpty && node.value.isEmpty && l.role.blockLine then
            { node with
              index := node.index + 1, value := text, role := { node.role with inline := true } }
          else node

end Node

end Marginalia
