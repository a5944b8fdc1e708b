import Marginalia.Grammar.Field
import Marginalia.Grammar.Template

/-!
# Rules

A rule is a pattern with actions, each under the name of a capture: either fields of the node are
set from templates, or further rules are applied to the captured text. The same type serves for
rules as written, whose patterns are texts, and for rules ready to be applied, whose patterns are
compiled.

* `Rules.compile` compiles every pattern. Actions follow the order in which their captures open in
  the pattern; actions under other names are dropped.
* `Rules.applyTop` applies rules to a node, `Rules.apply` applies them to a captured text. Rules
  more than `depthLimit` levels below the top do nothing.
-/

namespace Marginalia.Grammar

mutual

/-- Rules in order, each a pattern with its actions. -/
inductive Rules (P : Type) where
  | nil
  | cons (pattern : P) (actions : Actions P) (rest : Rules P)

/-- Actions in order, each under the name of a capture. -/
inductive Actions (P : Type) where
  | nil
  /-- Sets fields of the node from templates. -/
  | assign (name : Text) (targets : List (Field × Text)) (rest : Actions P)
  /-- Applies further rules to the captured text. -/
  | refine (name : Text) (rules : Rules P) (rest : Actions P)

end

instance {P : Type} : Inhabited (Rules P) := ⟨.nil⟩
instance {P : Type} : Inhabited (Actions P) := ⟨.nil⟩

/-- A single action. -/
inductive Action (P : Type) where
  | assign (targets : List (Field × Text))
  | refine (rules : Rules P)

namespace Actions

variable {P : Type}

/-- The actions of a list of names and single actions. -/
def ofList : List (Text × Action P) → Actions P
  | [] => nil
  | (name, .assign targets) :: rest => assign name targets (ofList rest)
  | (name, .refine rules) :: rest => refine name rules (ofList rest)

/-- The list of names and single actions. -/
def toList : Actions P → List (Text × Action P)
  | nil => []
  | assign name targets rest => (name, .assign targets) :: rest.toList
  | refine name rules rest => (name, .refine rules) :: rest.toList

end Actions

/-! ### Compiling -/

/-- Why rules do not compile: the text of a pattern and what is wrong with it. -/
structure BadPattern (ε : Type) where
  /-- The text of the pattern. -/
  pattern : Text
  /-- What is wrong with it. -/
  reason : ε
deriving DecidableEq, Repr

/-- The actions compiled for the given names, in the order of the names; the first failure among
them counts. Names without an action are passed over. -/
def collect {ε : Type} (compiled : List (Text × Except ε (Action Pattern))) :
    List Text → Except ε (Actions Pattern)
  | [] => .ok .nil
  | name :: names =>
    match compiled.lookup name with
    | none => collect compiled names
    | some (.error e) => .error e
    | some (.ok action) =>
      match collect compiled names with
      | .error e => .error e
      | .ok rest =>
        match action with
        | .assign targets => .ok (.assign name targets rest)
        | .refine rules => .ok (.refine name rules rest)

mutual

/-- Compiles all patterns; the first one that does not compile is reported. The rules under a
capture come after the pattern and before the rules that follow. -/
def Rules.compile {ε : Type} (compiler : PatternCompiler ε) :
    Rules Text → Except (BadPattern ε) (Rules Pattern)
  | .nil => .ok .nil
  | .cons text actions rest =>
    match compiler text with
    | .error e => .error ⟨text, e⟩
    | .ok pattern =>
      match collect (actions.compileEach compiler) pattern.names with
      | .error e => .error e
      | .ok actions =>
        match rest.compile compiler with
        | .error e => .error e
        | .ok rest => .ok (.cons pattern actions rest)

/-- What becomes of each action. -/
def Actions.compileEach {ε : Type} (compiler : PatternCompiler ε) :
    Actions Text → List (Text × Except (BadPattern ε) (Action Pattern))
  | .nil => []
  | .assign name targets rest => (name, .ok (.assign targets)) :: rest.compileEach compiler
  | .refine name rules rest =>
    (name, (rules.compile compiler).map .refine) :: rest.compileEach compiler

end

/-! ### Applying -/

/-- Rules nested deeper than this are not applied. -/
def depthLimit : Nat := 32

/-- Sets fields of a node from templates, in order. -/
def assignAll (targets : List (Field × Text)) (captures : Captures) (n : Node) : Node :=
  targets.foldl (fun n target => target.1.assign n (render captures target.2)) n

mutual

/-- Applies rules to a source text; `depth` levels are above them. -/
def Rules.apply (depth : Nat) : Rules Pattern → (source : Text) → Node → Node
  | .nil, _, n => n
  | .cons pattern actions rest, source, n =>
    rest.apply depth source <| match pattern.match? source with
      | none => n
      | some captures => actions.apply depth captures n

/-- Carries out actions on a node. A capture that is empty, or took no part in the match, is not
refined. -/
def Actions.apply (depth : Nat) : Actions Pattern → Captures → Node → Node
  | .nil, _, n => n
  | .assign _ targets rest, captures, n =>
    rest.apply depth captures (assignAll targets captures n)
  | .refine name rules rest, captures, n =>
    rest.apply depth captures <| match captures.text? name with
      | none => n
      | some text =>
        if text.isEmpty ∨ depthLimit < depth + 1 then n else rules.apply (depth + 1) text n

end

/-- Applies rules to a node, each to the value that the rules before it have left. -/
def Rules.applyTop : Rules Pattern → Node → Node
  | .nil, n => n
  | .cons pattern actions rest, n =>
    rest.applyTop <| match pattern.match? n.value with
      | none => n
      | some captures => actions.apply 0 captures n

end Marginalia.Grammar
