import Marginalia.Pattern
import Marginalia.Regex.Expr

/-!
# Programs that search

A regular expression is turned into a program of numbered instructions. A search tries the paths
through the program in order of preference, and it never visits an instruction twice at one place of
the text: a second visit would fail as the first one did.

The instructions of an expression are written behind those that follow it, so every instruction
knows the number of the next one; only a loop has to be completed afterwards.
-/

namespace Marginalia.Regex

/-- One instruction. -/
inductive Instr where
  /-- The search has succeeded. -/
  | accept
  /-- Consumes a character of the set. -/
  | char (set : CharSet) (next : Nat)
  /-- Goes on where the condition holds. -/
  | look (kind : Look) (next : Nat)
  /-- Tries one way and then the other. -/
  | split (first second : Nat)
  /-- Records the place under a slot. -/
  | save (slot next : Nat)
deriving Inhabited

/-- The instructions by number; the first one accepts. -/
abbrev Program := Array Instr

namespace Program

/-- Adds an instruction and gives its number. -/
def add (p : Program) (i : Instr) : Program × Nat := (p.push i, p.size)

/-- A choice whose preferred way is into the repeated expression if the repetition is greedy. -/
def choice (greedy : Bool) (enter leave : Nat) : Instr :=
  if greedy then .split enter leave else .split leave enter

/-- Repeats a step `n` times, each in front of the one before. -/
def copies (step : Program → Nat → Program × Nat) : Nat → Program → Nat → Program × Nat
  | 0, p, next => (p, next)
  | n + 1, p, next =>
    let (p, start) := step p next
    copies step n p start

/-- Up to `n` optional copies of a step; each may leave for `exit`. -/
def options (step : Program → Nat → Program × Nat) (greedy : Bool) (exit : Nat) :
    Nat → Program → Nat → Program × Nat
  | 0, p, next => (p, next)
  | n + 1, p, next =>
    let (p, start) := step p next
    let (p, start) := add p (choice greedy start exit)
    options step greedy exit n p start

/-- A loop around a step: entered through its choice, or, if `atLeastOnce`, through the step. -/
def loop (step : Program → Nat → Program × Nat) (greedy atLeastOnce : Bool) (p : Program)
    (next : Nat) : Program × Nat :=
  let (p, back) := add p .accept
  let (p, start) := step p back
  let p := p.setIfInBounds back (choice greedy start next)
  (p, if atLeastOnce then start else back)

/-- Writes the instructions of an expression in front of instruction `next` and gives the number of
the first one. -/
def write : Expr → Program → Nat → Program × Nat
  | .empty, p, next => (p, next)
  | .char set, p, next => add p (.char set next)
  | .look kind, p, next => add p (.look kind next)
  | .concat a b, p, next =>
    let (p, middle) := write b p next
    write a p middle
  | .alternation a b, p, next =>
    let (p, second) := write b p next
    let (p, first) := write a p next
    add p (.split first second)
  | .capture index _ e, p, next =>
    let (p, close) := add p (.save (2 * index + 1) next)
    let (p, start) := write e p close
    add p (.save (2 * index) start)
  | .repetition least most greedy e, p, next =>
    match most with
    | some most =>
      let (p, rest) := options (write e) greedy next (most - least) p next
      copies (write e) least p rest
    | none =>
      if least == 0 then
        if e.mayBeEmpty then
          let (p, start) := loop (write e) greedy true p next
          add p (choice greedy start next)
        else loop (write e) greedy false p next
      else
        let (p, start) := loop (write e) greedy true p next
        copies (write e) (least - 1) p start

/-- The program of an expression and the number of its first instruction. -/
def ofExpr (e : Expr) : Program × Nat := write e #[.accept] 0

/-! ### Searching -/

/-- A way still to be tried: the next instruction, the characters before and after the place, and
the places saved so far. -/
structure Thread where
  /-- The next instruction. -/
  instr : Nat
  /-- The number of characters before the place. -/
  place : Nat
  /-- The character before the place. -/
  before : Option Char
  /-- The text after the place. -/
  after : Text
  /-- The saved places by slot, the latest first. -/
  saved : List (Nat × Nat) := []

/-- Tries the threads in order until one accepts. `visited` marks the pairs of instruction and place
seen, in rows of `width`; at most `n` threads are taken up. -/
def run (p : Program) (width : Nat) : Nat → Array Bool → List Thread →
    Option (List (Nat × Nat)) × Array Bool
  | 0, visited, _ => (none, visited)
  | _ + 1, visited, [] => (none, visited)
  | n + 1, visited, t :: rest =>
    let mark := t.instr * width + t.place
    if visited.getD mark true then run p width n visited rest
    else
      let visited := visited.setIfInBounds mark true
      match p.getD t.instr .accept with
      | .accept => (some t.saved, visited)
      | .char set next =>
        match t.after with
        | c :: after =>
          if set.contains c then
            run p width n visited ({ t with
              instr := next, place := t.place + 1, before := some c, after := after } :: rest)
          else run p width n visited rest
        | [] => run p width n visited rest
      | .look kind next =>
        if kind.holds t.before t.after.head? then
          run p width n visited ({ t with instr := next } :: rest)
        else run p width n visited rest
      | .split first second =>
        run p width n visited ({ t with instr := first } :: { t with instr := second } :: rest)
      | .save slot next =>
        run p width n visited
          ({ t with instr := next, saved := (slot, t.place) :: t.saved } :: rest)

/-- Searches from a place of the text and, if that fails, from each later one. -/
def searchFrom (p : Program) (start width fuel : Nat) :
    (place : Nat) → (before : Option Char) → (after : Text) → Array Bool →
    Option (List (Nat × Nat))
  | place, before, after, visited =>
    match run p width fuel visited [{ instr := start, place, before, after }] with
    | (some saved, _) => some saved
    | (none, visited) =>
      match after with
      | [] => none
      | c :: after => searchFrom p start width fuel (place + 1) (some c) after visited
termination_by _ _ after => after.length

/-- The saved places of the first match in a text. -/
def search (p : Program) (start : Nat) (t : Text) : Option (List (Nat × Nat)) :=
  let width := t.length + 1
  let pairs := p.size * width
  searchFrom p start width (2 * pairs + 2) 0 none t (Array.replicate pairs false)

end Program

/-- The greatest number of steps of a program. -/
def stepLimit : Nat := 250000

/-- The names of the groups of an expression, in the order of their opening. -/
def Expr.names (e : Expr) : List Text := e.groups.filterMap Prod.snd

/-- What the named groups captured, given the places saved. -/
def Expr.captures (e : Expr) (t : Text) (saved : List (Nat × Nat)) : Captures :=
  { named := e.groups.filterMap fun (index, name) => do
      let name ← name
      let start ← saved.lookup (2 * index)
      let stop ← saved.lookup (2 * index + 1)
      return (name, (t.drop start).take (stop - start)) }

/-- Reads a pattern from its text. -/
def compile : PatternCompiler PatternError := fun t => do
  let e ← Expr.ofAst? (← Ast.read? t)
  if stepLimit < e.steps then throw .tooLarge
  let (program, start) := Program.ofExpr e
  return {
    names := e.names
    match? := fun t => (program.search start t).map (e.captures t) }

end Marginalia.Regex
