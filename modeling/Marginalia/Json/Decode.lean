import Marginalia.Json.Value

/-!
# Decoding JSON

A decoder looks for a value of a certain form in a scan and reports what it meets first: a fault of
the text or a value of another form. Lists and objects may be nested up to a depth; each decoder is
told how many levels are left.

Records are read from objects, where fields come in any order, unknown ones are passed over and none
may come twice, or from lists of their fields in order. A field that is left out keeps its default
unless it is required.
-/

namespace Marginalia.Json

/-- Reads a value with the given number of levels left. -/
abbrev Decoder (α : Type) := (depth : Nat) → Scan → Except Error α

/-- What was found at the place of a value that has another form. -/
def Scan.unexpected : Scan → Except Fault Unexpected
  | .broken f => .error f
  | .brokenAtom read _ | .brokenString read _ => .error read
  | .null => .ok .null
  | .bool b => .ok (.bool b)
  | .number (.ok (.integer i)) => .ok (.integer i)
  | .number (.ok (.double bits)) => .ok (.double bits)
  | .number (.error f) => .error f
  | .string (.ok t) => .ok (.text t)
  | .string (.error f) => .error f
  | .list _ => .ok .list
  | .object _ => .ok .map

/-- The error for a value that has another form than expected. -/
def Scan.mismatch (s : Scan) (expected : Text) : Error :=
  match s.unexpected with
  | .ok found => .invalidType found expected
  | .error f => .fault f

namespace Decoder

variable {α β κ σ : Type}

/-! ### Simple values -/

/-- A text, called by a name of its own where one is expected. -/
def textAs (expected : String) : Decoder Text := fun _ s =>
  match s with
  | .string (.ok t) => .ok t
  | s => .error (s.mismatch expected.toList)

/-- A text. -/
def text : Decoder Text := textAs "a string"

/-- A truth value. -/
def bool : Decoder Bool := fun _ s =>
  match s with
  | .bool b => .ok b
  | s => .error (s.mismatch "a boolean".toList)

/-- An integer from `least` up to `greatest`. -/
def integer (least greatest : Int) (expected : String) : Decoder Int := fun _ s =>
  match s with
  | .number (.ok (.integer i)) =>
    if least ≤ i ∧ i ≤ greatest then .ok i
    else .error (.invalidValue (.integer i) expected.toList)
  | s => .error (s.mismatch expected.toList)

/-- An integer of 32 bits. -/
def int32 : Decoder Int := integer (-0x80000000) 0x7FFFFFFF "i32"

/-- A natural number of 64 bits. -/
def nat64 : Decoder Nat := fun depth s =>
  (integer 0 0xFFFFFFFFFFFFFFFF "usize" depth s).map Int.toNat

/-! ### Lists and maps -/

/-- The items of a list, in order. -/
def items (item : Scan → Except Error α) : Items → Except Error (List α)
  | .stop why =>
    match why.itemFault? with
    | none => .ok []
    | some f => .error (.fault f)
  | .item value rest =>
    match item value with
    | .error e => .error e
    | .ok a => (items item rest).map (a :: ·)

/-- A list. -/
def list (item : Decoder α) : Decoder (List α) := fun depth s =>
  match s, depth with
  | .list _, 0 => .error (.fault .recursionLimit)
  | .list is, depth + 1 => items (item depth) is
  | s, _ => .error (s.mismatch "a sequence".toList)

/-- The fields of an object taken into a state in order, each under its key. -/
def fields (take : σ → Text → Scan → Except Error σ) : σ → Fields → Except Error σ
  | state, .stop why =>
    match why.fieldFault? with
    | none => .ok state
    | some f => .error (.fault f)
  | _, .badKey _ => .error (.fault .keyNotString)
  | _, .brokenKey read _ => .error (.fault read)
  | _, .field (.error f) _ _ => .error (.fault f)
  | state, .field (.ok key) value rest =>
    match take state key value with
    | .error e => .error e
    | .ok state => fields take state rest

/-- Puts an entry into a list sorted by key; an entry with the same key is replaced. -/
def putSorted [DecidableEq κ] (before : κ → κ → Bool) (key : κ) (a : α) :
    List (κ × α) → List (κ × α)
  | [] => [(key, a)]
  | (k, b) :: rest =>
    if k = key then (key, a) :: rest
    else if before key k then (key, a) :: (k, b) :: rest
    else (k, b) :: putSorted before key a rest

/-- A map, as a list sorted by key; of entries with the same key the last one counts. -/
def map [DecidableEq κ] (key : Text → Except Error κ) (before : κ → κ → Bool)
    (value : Decoder α) : Decoder (List (κ × α)) := fun depth s =>
  match s, depth with
  | .object _, 0 => .error (.fault .recursionLimit)
  | .object fs, depth + 1 =>
    fields (fun entries name s =>
      match key name with
      | .error e => .error e
      | .ok k => (value depth s).map fun a => putSorted before k a entries) [] fs
  | s, _ => .error (s.mismatch "a map".toList)

/-! ### Records -/

/-- A field of a record `σ`. -/
structure Field (σ : Type) where
  /-- The name of the field. -/
  name : Text
  /-- The field may not be left out. -/
  needed : Bool
  /-- Reads a value into the record. -/
  read : Decoder (σ → σ)

/-- A field that may be left out. -/
def Field.optional (name : String) (decoder : Decoder α) (put : α → σ → σ) : Field σ :=
  ⟨name.toList, false, fun depth s => (decoder depth s).map put⟩

/-- A field that may not be left out. -/
def Field.required (name : String) (decoder : Decoder α) (put : α → σ → σ) : Field σ :=
  { Field.optional name decoder put with needed := true }

/-- Takes a field of an object into a record, given the names seen so far. -/
def takeField (known : List (Field σ)) (depth : Nat) :
    σ × List Text → Text → Scan → Except Error (σ × List Text) := fun (record, seen) key value =>
  match known.find? fun f => f.name == key with
  | none =>
    match value.skipFault? with
    | none => .ok (record, seen)
    | some f => .error (.fault f)
  | some f =>
    if seen.contains key then .error (.duplicateField key)
    else (f.read depth value).map fun put => (put record, key :: seen)

/-- A record from the fields of an object. -/
def recordOfFields (known : List (Field σ)) (empty : σ) (depth : Nat) (fs : Fields) :
    Except Error σ :=
  match fields (takeField known depth) (empty, []) fs with
  | .error e => .error e
  | .ok (record, seen) =>
    match known.find? fun f => f.needed && !seen.contains f.name with
    | some f => .error (.missingField f.name)
    | none => .ok record

/-- The error met when a list goes on behind the last field of a record. -/
def surplus : Items → Option Error
  | .stop .close => none
  | .stop .eof => some (.fault .eofList)
  | .stop .trailingComma => some (.fault .trailingComma)
  | _ => some (.fault .trailingCharacters)

/-- A record from a list of its fields in order; `taken` of them have been taken. The list may end
early where no field that is left is required. -/
def recordOfItems (expected : Text) (depth : Nat) (taken : Nat) :
    List (Field σ) → σ → Items → Except Error σ
  | [], record, is =>
    match surplus is with
    | none => .ok record
    | some e => .error e
  | f :: known, record, .stop why =>
    match why.itemFault? with
    | some fault => .error (.fault fault)
    | none =>
      if f.needed then .error (.invalidLength taken expected)
      else recordOfItems expected depth (taken + 1) known record (.stop why)
  | f :: known, record, .item value rest =>
    match f.read depth value with
    | .error e => .error e
    | .ok put => recordOfItems expected depth (taken + 1) known (put record) rest

/-- How the number of fields is told. -/
def elements (n : Nat) : Text :=
  Text.ofNat n ++ (if n == 1 then " element" else " elements").toList

/-- A record with the given name and fields. -/
def record (name : String) (known : List (Field σ)) (empty : σ) : Decoder σ := fun depth s =>
  let called : Text := "struct ".toList ++ name.toList
  match s, depth with
  | .object _, 0 | .list _, 0 => .error (.fault .recursionLimit)
  | .object fs, depth + 1 => recordOfFields known empty depth fs
  | .list is, depth + 1 =>
    recordOfItems (called ++ " with ".toList ++ elements known.length) depth 0 known empty is
  | s, _ => .error (s.mismatch called)

/-! ### Variants -/

/-- The error for what stands at the place of the name of a variant. -/
def variantMismatch (s : Scan) : Error := s.mismatch "variant identifier".toList

/-- One of several variants, each with a value: an object with the name of the variant as its only
key. -/
def variant (known : List (Text × Decoder α)) : Decoder α := fun depth s =>
  let find (name : Text) : Except Error (Decoder α) :=
    match known.lookup name with
    | some d => .ok d
    | none => .error (.unknownVariant name (known.map Prod.fst))
  match s, depth with
  | .object _, 0 => .error (.fault .recursionLimit)
  | .object (.stop .close), _ => .error (.fault .valueExpected)
  | .object (.stop _), _ => .error (.fault .eofValue)
  | .object (.badKey s), _ => .error (variantMismatch s)
  | .object (.brokenKey read _), _ => .error (.fault read)
  | .object (.field (.error f) _ _), _ => .error (.fault f)
  | .object (.field (.ok name) value rest), depth + 1 =>
    match find name with
    | .error e => .error e
    | .ok d =>
      match d depth value with
      | .error e => .error e
      | .ok a =>
        match rest with
        | .stop .close => .ok a
        | .stop .eof => .error (.fault .eofObject)
        | _ => .error (.fault .valueExpected)
  | .string (.ok name), _ =>
    match find name with
    | .error e => .error e
    | .ok _ => .error (.invalidType .unitVariant "newtype variant".toList)
  | .string (.error f), _ => .error (.fault f)
  | .broken f, _ => .error (.fault f)
  | .brokenString read _, _ => .error (.fault read)
  | _, _ => .error (.fault .valueExpected)

/-! ### Values inside values of the same kind -/

/-- Unfolds a reader that reads values of its own kind at a smaller depth, `n` times. -/
def nestedWithin (step : Decoder α → Decoder α) : Nat → Decoder α
  | 0 => fun _ _ => .error (.fault .recursionLimit)
  | n + 1 => step (nestedWithin step n)

/-- A reader that reads values of its own kind inside of lists or objects. With each of them the
depth goes down, so it never unfolds more than `depth + 1` times. -/
def nested (step : Decoder α → Decoder α) : Decoder α := fun depth s =>
  nestedWithin step (depth + 1) depth s

/-! ### Whole texts -/

/-- The number of levels that lists and objects may be nested. -/
def depthLimit : Nat := 127

/-- Reads a text that holds one value and nothing else. -/
def run (d : Decoder α) (t : Text) : Except Error α :=
  let (s, clean) := scan t
  match d depthLimit s with
  | .error e => .error e
  | .ok a => if clean then .ok a else .error (.fault .trailingCharacters)

end Decoder

end Marginalia.Json
