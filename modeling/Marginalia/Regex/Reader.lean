import Marginalia.Regex.Ast
import Marginalia.Regex.CharSet

/-!
# Reading a pattern

`Ast.read?` reads the text of a pattern from left to right and reports the first fault met. Blanks
and comments count as text unless the flag `x` is set. Reading goes down one level, or on by one
character at least, with each recursive call, so the length of the text bounds the recursion.
-/

namespace Marginalia.Regex

/-- Where the reader stands. -/
structure ReadState where
  /-- The text still to be read. -/
  rest : Text
  /-- Blanks and comments are skipped. -/
  skipBlanks : Bool := false
  /-- The number of capture groups opened. -/
  groups : Nat := 0
  /-- The names given to capture groups. -/
  names : List Text := []

/-- A step of the reader. -/
abbrev Reading := StateT ReadState (Except PatternError)

namespace Reading

/-- The text without the blanks and comments in front of it. -/
def afterBlanks : (inComment : Bool) → Text → Text
  | _, [] => []
  | true, c :: rest => afterBlanks (c != '\n') rest
  | false, c :: rest =>
    if isBlank c then afterBlanks false rest
    else if c == '#' then afterBlanks true rest
    else c :: rest

/-- The next character. -/
def peek : Reading (Option Char) := do return (← get).rest.head?

/-- Passes over the next character. -/
def bump : Reading Unit := modify fun s => { s with rest := s.rest.tail }

/-- Passes over blanks and comments where they do not count. -/
def bumpBlanks : Reading Unit := modify fun s =>
  if s.skipBlanks then { s with rest := afterBlanks false s.rest } else s

/-- Passes over the next character and what need not be read after it. -/
def advance : Reading Unit := do
  bump
  bumpBlanks

/-- Passes over the given text if it comes next. -/
def bumpIf (t : String) : Reading Bool := do
  match t.toList.isPrefixOf? (← get).rest with
  | some rest => modify fun s => { s with rest := rest }; return true
  | none => return false

/-- The next character, or an error at the end of the pattern. -/
def peekOr (e : PatternError) : Reading Char := do
  match ← peek with
  | some c => return c
  | none => throw e

/-- The character after the next one, blanks and comments left out where they do not count. -/
def peekSecond : Reading (Option Char) := do
  let s ← get
  let rest := s.rest.tail
  if !s.skipBlanks then return rest.head?
  match rest.dropWhile isBlank with
  | '#' :: comment => return (comment.dropWhile isBlank).head?
  | rest => return rest.head?

/-- Passes over the characters with the property `p`, skipping what does not count, and returns
them; `n` bounds their number. -/
def takeWhile (p : Char → Bool) : Nat → Reading (List Char)
  | 0 => return []
  | n + 1 => do
    match ← peek with
    | some c =>
      if p c then
        advance
        return c :: (← takeWhile p n)
      else return []
    | none => return []

/-- Passes over the characters with the property `p` as far as they go. -/
def span (p : Char → Bool) : Reading (List Char) := do takeWhile p (← get).rest.length

/-! ### Numbers and escapes -/

/-- The number written by digits of a base. -/
def numeral (base : Nat) (digits : List Char) : Nat :=
  digits.foldl (fun n c => base * n + ((Ranges.hexDigit? c.toLower).getD 0)) 0

/-- A hexadecimal digit in either case. -/
def isHexDigit (c : Char) : Bool := (Ranges.hexDigit? c.toLower).isSome

/-- A count of a repetition, blanks around it allowed. -/
def count? : Reading (Except PatternError Nat) := do
  modify fun s => { s with rest := s.rest.dropWhile isBlank }
  let digits ← span Char.isDigit
  let _ ← span isBlank
  if digits.isEmpty then return .error .repetitionCountEmpty
  let n := numeral 10 digits
  if n < UInt32.size then return .ok n else return .error .decimalInvalid

/-- The character with a given code. -/
def scalar (n : Nat) : Reading Char :=
  if h : n.isValidChar then return Char.ofNatAux n h else throw .escapeHexInvalid

/-- A fixed number of hexadecimal digits. -/
def hexDigits : (digits : Nat) → (first : Bool) → Reading (List Char)
  | 0, _ => return []
  | n + 1, first => do
    unless first do advance
    let c ← peekOr .escapeUnexpectedEnd
    unless isHexDigit c do throw .escapeHexInvalidDigit
    return c :: (← hexDigits n false)

/-- A character given by its code, after `x`, `u` or `U`. -/
def hexLiteral (letter : Char) : Reading Ast := do
  advance
  if (← peekOr .escapeUnexpectedEnd) == '{' then
    advance
    let digits ← span fun c => c != '}' && isHexDigit c
    unless (← peekOr .escapeUnexpectedEnd) == '}' do throw .escapeHexInvalidDigit
    advance
    if digits.isEmpty then throw .escapeHexEmpty
    return .literal (← scalar (numeral 16 digits)) false
  else
    let digits ← hexDigits (if letter == 'x' then 2 else if letter == 'u' then 4 else 8) true
    advance
    return .literal (← scalar (numeral 16 digits)) (letter == 'x')

/-- Splits a text at the first occurrence of `separator`. -/
def splitAtText (separator : Text) : Text → Option (Text × Text)
  | [] => none
  | c :: rest =>
    match separator.isPrefixOf? (c :: rest) with
    | some after => some ([], after)
    | none => (splitAtText separator rest).map fun (before, after) => (c :: before, after)

/-- A class given by name, after `p` or `P`. -/
def unicodeClass (negated : Bool) : Reading Ast := do
  advance
  let c ← peekOr .escapeUnexpectedEnd
  if c == '{' then
    advance
    let name ← span (· != '}')
    let _ ← peekOr .escapeUnexpectedEnd
    bump
    match splitAtText "!=".toList name with
    | some (key, value) => return .unicode (!negated) (.keyed key value)
    | none =>
      match Text.cutAt ':' name <|> Text.cutAt '=' name with
      | some (key, value) => return .unicode negated (.keyed key value)
      | none => return .unicode negated (.single name)
  else
    if c == '\\' then throw .unicodeClassInvalid
    advance
    return .unicode negated (.single [c])

/-- A word boundary with a name in braces, if the braces hold a name. -/
def namedBoundary? : Reading (Option Anchor) := do
  let isNameChar (c : Char) : Bool := c.isAlpha || c == '-'
  let start ← get
  advance
  let c ← peekOr .wordBoundaryUnexpectedEnd
  unless isNameChar c do
    set start
    return none
  let name ← span isNameChar
  unless (← peek) == some '}' do throw .wordBoundaryUnclosed
  bump
  match String.ofList name with
  | "start" => return some .wordStart
  | "end" => return some .wordEnd
  | "start-half" => return some .wordStartHalf
  | "end-half" => return some .wordEndHalf
  | _ => throw .wordBoundaryUnrecognized

/-- The characters with a meaning of their own in a pattern. -/
def metaCharacters : List Char := r"\.+*?()|[]{}^$#&-~".toList

/-- The character may stand after a backslash for itself. -/
def isEscapable (c : Char) : Bool :=
  metaCharacters.contains c ||
    (c.toNat < 128 && !c.isAlphanum && c != '<' && c != '>')

/-- What a backslash starts. -/
def escape : Reading Ast := do
  bump
  let c ← peekOr .escapeUnexpectedEnd
  if c.isDigit then throw .unsupportedBackreference
  if c == 'x' || c == 'u' || c == 'U' then return ← hexLiteral c
  if c == 'p' || c == 'P' then return ← unicodeClass (c == 'P')
  bump
  if isEscapable c then return .literal c false
  match c with
  | 'd' => return .perl false .digit
  | 'D' => return .perl true .digit
  | 's' => return .perl false .space
  | 'S' => return .perl true .space
  | 'w' => return .perl false .word
  | 'W' => return .perl true .word
  | 'a' => return .literal '\x07' false
  | 'f' => return .literal '\x0c' false
  | 't' => return .literal '\t' false
  | 'n' => return .literal '\n' false
  | 'r' => return .literal '\r' false
  | 'v' => return .literal '\x0b' false
  | 'A' => return .anchor .textStart
  | 'z' => return .anchor .textEnd
  | 'B' => return .anchor .notWordBoundary
  | '<' => return .anchor .wordStart
  | '>' => return .anchor .wordEnd
  | 'b' =>
    if (← peek) == some '{' then
      return .anchor ((← namedBoundary?).getD .wordBoundary)
    else return .anchor .wordBoundary
  | _ => throw .escapeUnrecognized

/-! ### Brackets -/

/-- The item of a class that a piece of pattern stands for. -/
def classItem : Ast → Except PatternError ClassSet
  | .literal c _ => .ok (.literal c)
  | .perl negated kind => .ok (.perl negated kind)
  | .unicode negated name => .ok (.unicode negated name)
  | _ => .error .classEscapeInvalid

/-- The character that a piece of pattern stands for, as the end of a range. -/
def classLiteral : Ast → Except PatternError Char
  | .literal c _ => .ok c
  | _ => .error .classRangeLiteral

/-- A character or an escape between brackets. -/
def classPrimitive : Reading Ast := do
  let c ← peekOr .classUnclosed
  if c == '\\' then escape
  else
    bump
    return .literal c false

/-- An item or a range between brackets. -/
def classRange : Reading ClassSet := do
  let first ← classPrimitive
  bumpBlanks
  let c ← peekOr .classUnclosed
  let second ← peekSecond
  if c != '-' || second == some ']' || second == some '-' then return ← classItem first
  advance
  let _ ← peekOr .classUnclosed
  let last ← classPrimitive
  let lo ← classLiteral first
  let hi ← classLiteral last
  unless lo ≤ hi do throw .classRangeInvalid
  return .range lo hi

/-- A named class between brackets and colons; nothing is passed over if there is none. -/
def asciiClass? : Reading (Option ClassSet) := do
  let s ← get
  let (negated, body) := match s.rest with
    | '[' :: ':' :: '^' :: body => (true, body)
    | '[' :: ':' :: body => (false, body)
    | _ => (false, [])
  match Text.cutAt ':' body with
  | some (name, ']' :: rest) =>
    if (CharSet.ascii? name).isSome then
      set { s with rest := rest }
      return some (.ascii negated name)
    else return none
  | _ => return none

/-- How the items read so far go together with what was before the last operator. -/
structure ClassState where
  /-- The operator before the items, with its left side. -/
  pending : Option ((ClassSet → ClassSet → ClassSet) × ClassSet) := none
  /-- The items after the operator. -/
  items : ClassSet := .empty

namespace ClassState

/-- The set read so far. -/
def close (s : ClassState) : ClassSet :=
  match s.pending with
  | none => s.items
  | some (op, left) => op left s.items

/-- One item more. -/
def push (s : ClassState) (item : ClassSet) : ClassState :=
  { s with items := match s.items with
    | .empty => item
    | items => .union items item }

/-- An operator after the items. -/
def operator (s : ClassState) (op : ClassSet → ClassSet → ClassSet) : ClassState :=
  { pending := some (op, s.close) }

end ClassState

/-- Dashes in front of the items of a class stand for themselves. -/
def leadingDashes : Nat → ClassState → Reading ClassState
  | 0, s => return s
  | n + 1, s => do
    if (← peekOr .classUnclosed) == '-' then
      advance
      let _ ← peekOr .classUnclosed
      leadingDashes n (s.push (.literal '-'))
    else return s

/-- What follows the bracket that opens a class: a caret, dashes, or a bracket as first item. -/
def classOpening : Reading (Bool × ClassState) := do
  advance
  let negated := (← peekOr .classUnclosed) == '^'
  if negated then advance
  let s ← leadingDashes (← get).rest.length {}
  if (← peekOr .classUnclosed) == ']' && s.items == .empty then
    advance
    let _ ← peekOr .classUnclosed
    return (negated, s.push (.literal ']'))
  else return (negated, s)

/-- The items of a class up to its closing bracket. -/
def classItems : Nat → ClassState → Reading ClassSet
  | 0, _ => throw .classUnclosed
  | n + 1, s => do
    bumpBlanks
    let c ← peekOr .classUnclosed
    if c == '[' then
      match ← asciiClass? with
      | some item => classItems n (s.push item)
      | none =>
        let (negated, inner) ← classOpening
        let set ← classItems n inner
        classItems n (s.push (.bracket negated set))
    else if c == ']' then
      bump
      return s.close
    else if ← bumpIf "&&" then classItems n (s.operator .inter)
    else if ← bumpIf "--" then classItems n (s.operator .diff)
    else if ← bumpIf "~~" then classItems n (s.operator .symmetricDiff)
    else
      let item ← classRange
      classItems n (s.push item)

/-- A class in brackets. -/
def bracketClass : Reading Ast := do
  let length := (← get).rest.length
  let (negated, s) ← classOpening
  return .bracket negated (← classItems (length + 1) s)

/-! ### Groups and repetitions -/

/-- The letters of a flag group, from the first to the colon or the closing parenthesis; `seen`
holds those before. -/
def flagLetters : Nat → (seen : List Char) → Reading (List Char)
  | 0, _ => throw .flagUnexpectedEnd
  | n + 1, seen => do
    let c ← peekOr .flagUnexpectedEnd
    if c == ':' || c == ')' then
      if seen.getLast? == some '-' then throw .flagDanglingNegation
      return seen
    if c == '-' then
      if seen.contains '-' then throw .flagRepeatedNegation
    else
      unless "imsUuRx".toList.contains c do throw .flagUnrecognized
      if seen.contains c then throw .flagDuplicate
    bump
    flagLetters n (seen ++ [c])

/-- The change asked for by the letters of a flag group. -/
def flagChange (letters : List Char) : FlagChange :=
  let on := letters.takeWhile (· != '-')
  let off := letters.dropWhile (· != '-')
  let state (c : Char) : Option Bool :=
    if on.contains c then some true else if off.contains c then some false else none
  { ignoreCase := state 'i', multiLine := state 'm', dotAll := state 's', swapGreed := state 'U'
    unicode := state 'u', crlf := state 'R', skipBlanks := state 'x' }

/-- The character is a letter. -/
def isLetter (c : Char) : Bool :=
  if c.toNat < 128 then c.isAlpha
  else ((CharSet.property? "alphabetic").getD .empty).contains c

/-- The character is a number. -/
def isNumber (c : Char) : Bool :=
  if c.toNat < 128 then c.isDigit
  else ((CharSet.category? "n").getD .empty).contains c

/-- The character may stand in the name of a group. -/
def isNameChar (first : Bool) (c : Char) : Bool :=
  c == '_' || isLetter c || (!first && (c == '.' || c == '[' || c == ']' || isNumber c))

/-- The name of a group, up to and with the closing angle bracket. -/
def groupName : Reading Text := do
  let _ ← peekOr .groupNameUnexpectedEnd
  let s ← get
  let name := s.rest.takeWhile (· != '>')
  unless (name.take 1).all (isNameChar true) && (name.drop 1).all (isNameChar false) do
    throw .groupNameInvalid
  set { s with rest := s.rest.dropWhile (· != '>') }
  let _ ← peekOr .groupNameUnexpectedEnd
  bump
  if name.isEmpty then throw .groupNameEmpty
  if s.names.contains name then throw .groupNameDuplicate
  modify fun s => { s with names := name :: s.names }
  return name

/-- What an opening parenthesis starts. -/
inductive Opening where
  | flags (change : FlagChange)
  | group (change : FlagChange)
  | capture (index : Nat) (name : Option Text)

/-- Reads the opening of a group, or a group that only changes flags. -/
def groupOpening : Reading Opening := do
  advance
  let s ← get
  if ["?=", "?!", "?<=", "?<!"].any fun t => t.toList.isPrefixOf s.rest then
    throw .unsupportedLookAround
  let named ← (do if ← bumpIf "?P<" then return true else bumpIf "?<")
  if named then
    modify fun s => { s with groups := s.groups + 1 }
    let name ← groupName
    return .capture (s.groups + 1) (some name)
  if ← bumpIf "?" then
    let _ ← peekOr .groupUnclosed
    let letters ← flagLetters (s.rest.length + 1) []
    let closed := (← peek) == some ')'
    bump
    if closed then
      if letters.isEmpty then throw .repetitionMissing
      return .flags (flagChange letters)
    else return .group (flagChange letters)
  modify fun s => { s with groups := s.groups + 1 }
  return .capture (s.groups + 1) none

/-- The last part before a repetition operator, and the parts before it. -/
def repeated : List Ast → Reading (Ast × List Ast)
  | [] => throw .repetitionMissing
  | .flags _ :: _ | .empty :: _ => throw .repetitionMissing
  | a :: parts => return (a, parts)

/-- Passes over the question mark of a lazy repetition. -/
def greedy : Reading Bool := do
  if (← peek) == some '?' then
    bump
    return false
  else return true

/-- The bounds of a counted repetition, from its opening brace to its closing one. -/
def bounds : Reading (Nat × Option Nat) := do
  advance
  let _ ← peekOr .repetitionCountUnclosed
  let least ← count?
  let c ← peekOr .repetitionCountUnclosed
  let range ← (do
    if c == ',' then
      advance
      if (← peekOr .repetitionCountUnclosed) != '}' then
        let least ← least
        let most ← (← count?)
        return (least, some most)
      else return (← least, none)
    else
      let least ← least
      return (least, some least))
  unless (← peek) == some '}' do throw .repetitionCountUnclosed
  advance
  return range

/-- Reads up to a closing parenthesis or the end: `parts` of the current branch and the `branches`
before it are given last first. -/
def alternatives : Nat → (parts branches : List Ast) → Reading Ast
  | 0, _, _ => throw .groupUnclosed
  | n + 1, parts, branches => do
    bumpBlanks
    match ← peek with
    | none | some ')' => return .ofBranches ((Ast.ofParts parts.reverse :: branches).reverse)
    | some '|' =>
      bump
      alternatives n [] (Ast.ofParts parts.reverse :: branches)
    | some '[' =>
      let a ← bracketClass
      alternatives n (a :: parts) branches
    | some '?' =>
      let (a, parts) ← repeated parts
      bump
      alternatives n (.repetition 0 (some 1) (← greedy) a :: parts) branches
    | some '*' =>
      let (a, parts) ← repeated parts
      bump
      alternatives n (.repetition 0 none (← greedy) a :: parts) branches
    | some '+' =>
      let (a, parts) ← repeated parts
      bump
      alternatives n (.repetition 1 none (← greedy) a :: parts) branches
    | some '{' =>
      let (a, parts) ← repeated parts
      let (least, most) ← bounds
      let greedy ← greedy
      if most.any (· < least) then throw .repetitionCountInvalid
      alternatives n (.repetition least most greedy a :: parts) branches
    | some '(' =>
      let outer := (← get).skipBlanks
      match ← groupOpening with
      | .flags change =>
        modify fun s => { s with skipBlanks := change.skipBlanks.getD s.skipBlanks }
        alternatives n (.flags change :: parts) branches
      | .group change =>
        modify fun s => { s with skipBlanks := change.skipBlanks.getD s.skipBlanks }
        let sub ← alternatives n [] []
        let _ ← peekOr .groupUnclosed
        modify fun s => { s with skipBlanks := outer }
        bump
        alternatives n (.group change sub :: parts) branches
      | .capture index name =>
        let sub ← alternatives n [] []
        let _ ← peekOr .groupUnclosed
        modify fun s => { s with skipBlanks := outer }
        bump
        alternatives n (.capture index name sub :: parts) branches
    | some '\\' =>
      let a ← escape
      alternatives n (a :: parts) branches
    | some '.' =>
      bump
      alternatives n (.dot :: parts) branches
    | some '^' =>
      bump
      alternatives n (.anchor .lineStart :: parts) branches
    | some '$' =>
      bump
      alternatives n (.anchor .lineEnd :: parts) branches
    | some c =>
      bump
      alternatives n (.literal c false :: parts) branches

end Reading

/-- The greatest depth of nesting in a pattern. -/
def nestLimit : Nat := 250

/-- Reads a whole pattern. -/
def Ast.read? (t : Text) : Except PatternError Ast := do
  let (a, s) ← (Reading.alternatives (t.length + 1) [] []).run { rest := t }
  if !s.rest.isEmpty then throw .groupUnopened
  if nestLimit < a.nesting then throw .nestLimitExceeded
  return a

end Marginalia.Regex
