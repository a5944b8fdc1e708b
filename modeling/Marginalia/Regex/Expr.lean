import Marginalia.Regex.Reader

/-!
# Regular expressions

A regular expression is what a pattern means: flags are applied, names are looked up, and
repetitions that can only repeat the empty text are cut down to at most one.

* `Expr.ofAst?` gives the meaning of a pattern, from left to right, since a change of flags holds
  up to the end of the group it stands in.
* `Look.holds` says where an anchor holds, given the characters on both sides of a place.
-/

namespace Marginalia.Regex

/-- A condition on a place in a text. -/
inductive Look where
  | textStart
  | textEnd
  | lineStart
  | lineEnd
  | crlfLineStart
  | crlfLineEnd
  /-- A word boundary; `unicode` if it knows all word characters. -/
  | wordBoundary (unicode : Bool)
  | notWordBoundary (unicode : Bool)
  | wordStart (unicode : Bool)
  | wordEnd (unicode : Bool)
  | wordStartHalf (unicode : Bool)
  | wordEndHalf (unicode : Bool)
deriving DecidableEq, Repr, Inhabited

namespace Look

/-- The character counts as part of a word. -/
def isWord (unicode : Bool) (c : Option Char) : Bool :=
  match c with
  | none => false
  | some c => if unicode then isWordChar c else c.isAlphanum || c == '_'

/-- Whether the condition holds between the character `before` and the character `after`. -/
def holds (look : Look) (before after : Option Char) : Bool :=
  match look with
  | textStart => before.isNone
  | textEnd => after.isNone
  | lineStart => before.isNone || before == some '\n'
  | lineEnd => after.isNone || after == some '\n'
  | crlfLineStart =>
    before.isNone || before == some '\n' || (before == some '\r' && after != some '\n')
  | crlfLineEnd =>
    after.isNone || after == some '\r' || (after == some '\n' && before != some '\r')
  | wordBoundary u => isWord u before != isWord u after
  | notWordBoundary u => isWord u before == isWord u after
  | wordStart u => !isWord u before && isWord u after
  | wordEnd u => isWord u before && !isWord u after
  | wordStartHalf u => !isWord u before
  | wordEndHalf u => !isWord u after

end Look

/-- A regular expression. -/
inductive Expr where
  | empty
  | char (set : CharSet)
  | look (kind : Look)
  | repetition (least : Nat) (most : Option Nat) (greedy : Bool) (sub : Expr)
  | capture (index : Nat) (name : Option Text) (sub : Expr)
  | concat (a b : Expr)
  | alternation (a b : Expr)
deriving Inhabited

namespace Expr

/-- The expression matches nothing but empty texts. -/
def onlyEmpty : Expr → Bool
  | empty | look _ => true
  | char _ => false
  | repetition _ _ _ e => e.onlyEmpty
  | capture _ _ e => e.onlyEmpty
  | concat a b | alternation a b => a.onlyEmpty && b.onlyEmpty

/-- The expression may match an empty text. -/
def mayBeEmpty : Expr → Bool
  | empty | look _ => true
  | char _ => false
  | repetition least _ _ e => least == 0 || e.mayBeEmpty
  | capture _ _ e => e.mayBeEmpty
  | concat a b => a.mayBeEmpty && b.mayBeEmpty
  | alternation a b => a.mayBeEmpty || b.mayBeEmpty

/-- A repetition, reduced where it repeats nothing or one thing once. -/
def repeated (least : Nat) (most : Option Nat) (greedy : Bool) (e : Expr) : Expr :=
  let (least, most) :=
    if e.onlyEmpty then (min least 1, some (min (most.getD 1) 1)) else (least, most)
  if most == some 0 then empty
  else if least == 1 && most == some 1 then e
  else repetition least most greedy e

/-- The groups of the expression with their names, in the order of their opening. -/
def groups : Expr → List (Nat × Option Text)
  | empty | char _ | look _ => []
  | repetition _ _ _ e => e.groups
  | capture index name e => (index, name) :: e.groups
  | concat a b | alternation a b => a.groups ++ b.groups

/-- The number of steps of a program for the expression. -/
def steps : Expr → Nat
  | empty => 1
  | char _ | look _ => 1
  | repetition least most _ e => (max least (most.getD (least + 1)) + 1) * (e.steps + 1)
  | capture _ _ e => e.steps + 2
  | concat a b | alternation a b => a.steps + b.steps + 1

end Expr

/-- The flags in force at a place in a pattern. -/
structure Flags where
  /-- Letters match in either case. -/
  ignoreCase : Bool := false
  /-- `^` and `$` match at lines. -/
  multiLine : Bool := false
  /-- The dot matches line feeds. -/
  dotAll : Bool := false
  /-- Repetitions are lazy unless marked. -/
  swapGreed : Bool := false
  /-- Classes and boundaries know all of Unicode. -/
  unicode : Bool := true
  /-- A carriage return belongs to the line end. -/
  crlf : Bool := false

namespace Flags

/-- The flags after a change. -/
def apply (f : Flags) (c : FlagChange) : Flags :=
  { ignoreCase := c.ignoreCase.getD f.ignoreCase
    multiLine := c.multiLine.getD f.multiLine
    dotAll := c.dotAll.getD f.dotAll
    swapGreed := c.swapGreed.getD f.swapGreed
    unicode := c.unicode.getD f.unicode
    crlf := c.crlf.getD f.crlf }

/-- The ASCII characters. -/
def asciiSet : CharSet := .ranges [(0, 0x7f)]

/-- A set is written in bytes where Unicode is switched off: its members must be ASCII then. -/
def checked (f : Flags) (s : CharSet) : Except PatternError CharSet :=
  if f.unicode then .ok s
  else if (List.range 128).any fun n => s.contains (Char.ofNat (n + 128)) then .error .invalidUtf8
  else .ok (.inter s asciiSet)

/-- The set closed under change of case, if case is ignored; without Unicode, under that of ASCII
letters. -/
def folded (f : Flags) (s : CharSet) : CharSet :=
  if !f.ignoreCase then s
  else if f.unicode then .foldCase s
  else
    let letters := (List.range 128).map Char.ofNat
    .union s (.ranges ((letters.filter fun c =>
      s.contains c.toLower || s.contains c.toUpper).filterMap fun c =>
        if c.isAlpha then some (c.toNat, c.toNat) else none))

/-- The set of a class with a letter of its own. -/
def perlSet (f : Flags) (negated : Bool) (kind : PerlClass) : CharSet :=
  .negateIf negated <| match kind, f.unicode with
    | .digit, true => (CharSet.category? "nd").getD .empty
    | .space, true => .blank
    | .word, true => .word
    | .digit, false => .ranges [(0x30, 0x39)]
    | .space, false => .ranges [(9, 13), (0x20, 0x20)]
    | .word, false => .ranges [(0x30, 0x39), (0x41, 0x5a), (0x5f, 0x5f), (0x61, 0x7a)]

/-- The set of a class given by name. -/
def unicodeSet (f : Flags) (negated : Bool) (name : ClassName) : Except PatternError CharSet := do
  unless f.unicode do throw .unicodeNotAllowed
  let s ← match name with
    | .single name => CharSet.named name
    | .keyed key value => CharSet.keyed key value
  return .negateIf negated (f.folded s)

/-- The set of what stands between brackets. -/
def classSet (f : Flags) : ClassSet → Except PatternError CharSet
  | .empty => .ok .empty
  | .literal c =>
    if f.unicode || c.toNat < 256 then .ok (.single c) else .error .unicodeNotAllowed
  | .range lo hi =>
    if f.unicode || hi.toNat < 256 then .ok (.ranges [(lo.toNat, hi.toNat)])
    else .error .unicodeNotAllowed
  | .ascii negated name =>
    .ok (.negateIf negated (f.folded ((CharSet.ascii? name).getD .empty)))
  | .perl negated kind => .ok (f.perlSet negated kind)
  | .unicode negated name => f.unicodeSet negated name
  | .bracket negated s => return .negateIf negated (f.folded (← f.classSet s))
  | .union a b => return .union (← f.classSet a) (← f.classSet b)
  | .inter a b => return .inter (f.folded (← f.classSet a)) (f.folded (← f.classSet b))
  | .diff a b => return .diff (f.folded (← f.classSet a)) (f.folded (← f.classSet b))
  | .symmetricDiff a b =>
    return .symmetricDiff (f.folded (← f.classSet a)) (f.folded (← f.classSet b))

/-- The condition that an anchor stands for. -/
def look (f : Flags) : Anchor → Look
  | .lineStart =>
    if f.multiLine then if f.crlf then .crlfLineStart else .lineStart else .textStart
  | .lineEnd => if f.multiLine then if f.crlf then .crlfLineEnd else .lineEnd else .textEnd
  | .textStart => .textStart
  | .textEnd => .textEnd
  | .wordBoundary => .wordBoundary f.unicode
  | .notWordBoundary => .notWordBoundary f.unicode
  | .wordStart => .wordStart f.unicode
  | .wordEnd => .wordEnd f.unicode
  | .wordStartHalf => .wordStartHalf f.unicode
  | .wordEndHalf => .wordEndHalf f.unicode

/-- The characters that the dot matches. -/
def dotSet (f : Flags) : CharSet :=
  if f.dotAll then .any
  else if f.crlf then .complement (.ranges [(10, 10), (13, 13)])
  else .complement (.ranges [(10, 10)])

/-- The meaning of a pattern under flags, and the flags in force behind it. -/
def expr (f : Flags) : Ast → Except PatternError (Expr × Flags)
  | .empty => .ok (.empty, f)
  | .flags change => .ok (.empty, f.apply change)
  | .literal c byte =>
    if byte && !f.unicode && 0x7f < c.toNat then .error .invalidUtf8
    else .ok (.char (f.folded (.single c)), f)
  | .dot => if f.unicode then .ok (.char f.dotSet, f) else .error .invalidUtf8
  | .anchor kind => .ok (.look (f.look kind), f)
  | .perl negated kind => return (.char (← f.checked (f.perlSet negated kind)), f)
  | .unicode negated name => return (.char (← f.unicodeSet negated name), f)
  | .bracket negated s =>
    return (.char (← f.checked (.negateIf negated (f.folded (← f.classSet s)))), f)
  | .repetition least most greedy a => do
    let (e, g) ← f.expr a
    return (.repeated least most (greedy != f.swapGreed) e, g)
  | .capture index name a => do
    let (e, _) ← f.expr a
    return (.capture index name e, f)
  | .group change a => do
    let (e, _) ← (f.apply change).expr a
    return (e, f)
  | .concat a b => do
    let (x, f) ← f.expr a
    let (y, f) ← f.expr b
    return (.concat x y, f)
  | .alternation a b => do
    let (x, f) ← f.expr a
    let (y, f) ← f.expr b
    return (.alternation x y, f)

end Flags

/-- The meaning of a pattern. -/
def Expr.ofAst? (a : Ast) : Except PatternError Expr := do
  let (e, _) ← Flags.expr {} a
  return e

end Marginalia.Regex
