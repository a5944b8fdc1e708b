import Marginalia.Text

/-!
# Arguments

The words behind the name of a command are switches and operands. A switch is written in full
behind two dashes or as one letter behind a dash; letters may share a dash. Its value, if it takes
one, is the rest of its word or the next word, which must not look like a switch. No switch may be
given twice. Behind a word of two dashes all words are operands.
-/

namespace Marginalia.CommandLine

/-- A switch that a command knows. -/
structure Switch (κ : Type) where
  /-- What the switch stands for. -/
  key : κ
  /-- The name of the switch. -/
  long : Text
  /-- The letter of the switch. -/
  short : Option Char := none
  /-- The switch has a value. -/
  takesValue : Bool := true

/-- Why arguments do not make a command. -/
inductive Refusal where
  /-- They are not understood. -/
  | misuse
  /-- They ask for help. -/
  | help
  /-- They ask for the version of the program. -/
  | version
deriving DecidableEq, Repr, Inhabited

/-- Arguments sorted out. -/
structure Arguments (κ : Type) where
  /-- The switches given, with their values. -/
  given : List (κ × Text) := []
  /-- The operands in order. -/
  operands : List Text := []

namespace Arguments

variable {κ : Type} [DecidableEq κ]

/-- The value of a switch. -/
def value? (a : Arguments κ) (key : κ) : Option Text := a.given.lookup key

/-- The switch was given. -/
def has (a : Arguments κ) (key : κ) : Bool := (a.value? key).isSome

/-- Takes a switch, unless it was given before. -/
def add (a : Arguments κ) (key : κ) (value : Text) : Except Refusal (Arguments κ) :=
  if a.has key then .error .misuse else .ok { a with given := a.given ++ [(key, value)] }

/-- Takes a switch written in full: its name, and the value if one is attached. The switch is given
back if it still waits for its value. -/
def addLong (known : List (Switch κ)) (a : Arguments κ) (name : Text) (attached : Option Text) :
    Except Refusal (Arguments κ × Option κ) :=
  match known.find? fun s => s.long == name with
  | none => .error .misuse
  | some s =>
    match s.takesValue, attached with
    | true, some value => (a.add s.key value).map (·, none)
    | true, none => .ok (a, some s.key)
    | false, none => (a.add s.key []).map (·, none)
    | false, some _ => .error .misuse

/-- Takes the switches whose letters share a dash. The last one is given back if it still waits
for its value. -/
def addShort (known : List (Switch κ)) (a : Arguments κ) :
    Text → Except Refusal (Arguments κ × Option κ)
  | [] => .ok (a, none)
  | c :: letters =>
    match known.find? fun s => s.short == some c with
    | none => .error .misuse
    | some s =>
      match s.takesValue, letters with
      | true, [] => .ok (a, some s.key)
      | true, '=' :: value => (a.add s.key value).map (·, none)
      | true, value => (a.add s.key value).map (·, none)
      | false, letters =>
        match a.add s.key [] with
        | .error e => .error e
        | .ok a => a.addShort known letters

/-- The form of a word. -/
inductive Word where
  | plain
  | dashes
  | long (name : Text) (attached : Option Text)
  | short (letters : Text)

/-- The form of a word. A single dash is an operand. -/
def Word.ofText : Text → Word
  | ['-', '-'] => .dashes
  | '-' :: '-' :: rest =>
    match Text.cutAt '=' rest with
    | none => .long rest none
    | some (name, value) => .long name (some value)
  | ['-'] => .plain
  | '-' :: letters => .short letters
  | _ => .plain

/-- Sorts out words behind those sorted out before; `waiting` is the switch that waits for its
value. -/
def readFrom (known : List (Switch κ)) (a : Arguments κ) (waiting : Option κ) :
    List Text → Except Refusal (Arguments κ)
  | [] => if waiting.isSome then .error .misuse else .ok a
  | word :: words =>
    match waiting, Word.ofText word with
    | some key, .plain =>
      match a.add key word with
      | .error e => .error e
      | .ok a => a.readFrom known none words
    | some _, _ => .error .misuse
    | none, .plain => { a with operands := a.operands ++ [word] }.readFrom known none words
    | none, .dashes => .ok { a with operands := a.operands ++ words }
    | none, .long name attached =>
      match a.addLong known name attached with
      | .error e => .error e
      | .ok (a, waiting) => a.readFrom known waiting words
    | none, .short letters =>
      match a.addShort known letters with
      | .error e => .error e
      | .ok (a, waiting) => a.readFrom known waiting words

/-- Sorts out the words behind a command. -/
def read (known : List (Switch κ)) (words : List Text) : Except Refusal (Arguments κ) :=
  ({} : Arguments κ).readFrom known none words

end Arguments

end Marginalia.CommandLine
