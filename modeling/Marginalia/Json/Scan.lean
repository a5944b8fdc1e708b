import Marginalia.Json.Number
import Marginalia.Json.Quote

/-!
# Scanning JSON

A scan is what a text says, read from left to right, up to the first place where it is not JSON: the
fault stands in the scan at that place. Whoever looks for values of a certain form goes through the
scan in the order of the text and stops at the first fault or at the first value of another form,
whichever comes first.

Values that nobody asks for are passed over by looser rules. A string or a number may be faulty
for a reader and sound for one who passes over it, so a scan says both.
-/

namespace Marginalia.Json

/-- Why no further item, or no further field, follows. -/
inductive Stop where
  /-- The closing bracket or brace. -/
  | close
  /-- The text ends where a comma or the close should be. -/
  | eof
  /-- Something else stands there. -/
  | noComma
  /-- The close follows a comma. -/
  | trailingComma
  /-- The text ends behind a comma. -/
  | eofAfterComma
deriving DecidableEq, Repr, Inhabited

mutual

/-- What stands at the place of a value. -/
inductive Scan where
  /-- Nothing that starts a value. -/
  | broken (f : Fault)
  /-- A word or number that cannot be read (for the first reason) nor passed over (for the
  second). -/
  | brokenAtom (read skipped : Fault)
  /-- A string that cannot be read nor passed over. -/
  | brokenString (read skipped : Fault)
  | null
  | bool (b : Bool)
  | number (n : Except Fault Number)
  | string (t : Except Fault Text)
  | list (items : Items)
  | object (fields : Fields)

/-- What stands behind an opening bracket. -/
inductive Items where
  | stop (why : Stop)
  | item (value : Scan) (rest : Items)

/-- What stands behind an opening brace. -/
inductive Fields where
  | stop (why : Stop)
  /-- Something other than a string at the place of a key. -/
  | badKey (found : Scan)
  /-- A key that cannot be read nor passed over. -/
  | brokenKey (read skipped : Fault)
  | field (key : Except Fault Text) (value : Scan) (rest : Fields)

end

instance : Inhabited Scan := ⟨.null⟩
instance : Inhabited Items := ⟨.stop .close⟩
instance : Inhabited Fields := ⟨.stop .close⟩

/-! ### From text to scan -/

/-- The characters that may stand between tokens. -/
def isSpace (c : Char) : Bool := c == ' ' || c == '\n' || c == '\t' || c == '\r'

/-- The text without white space in front. -/
def skipSpace (t : Text) : Text := t.dropWhile isSpace

/-- Passes over the given letters. -/
def readWord : List Char → Text → Except Fault Text
  | [], t => .ok t
  | _ :: _, [] => .error .eofValue
  | a :: letters, c :: t => if a == c then readWord letters t else .error .wordExpected

/-- A value written by a word, behind its first letter. -/
def scanWord (letters : String) (value : Scan) (t : Text) : Scan × Text :=
  match readWord letters.toList t with
  | .ok rest => (value, rest)
  | .error f => (.brokenAtom f f, [])

/-- A number behind its sign. -/
def scanNumber (negative : Bool) (t : Text) : Scan × Text :=
  match readNumeral negative t with
  | .ok (n, rest) => (.number n.value, rest)
  | .error (read, skipped) => (.brokenAtom read skipped, [])

/-- The reading of a string, and what follows it; or the faults of reading and of passing over. -/
def stringToken (t : Text) : Except (Fault × Fault) (Except Fault Text × Text) :=
  match skipString t with
  | .ok rest => .ok ((readString t).map Prod.fst, rest)
  | .error skipped =>
    match readString t with
    | .ok _ => .error (skipped, skipped)
    | .error read => .error (read, skipped)

/-- A string behind its opening quote. -/
def scanString (t : Text) : Scan × Text :=
  match stringToken t with
  | .ok (t, rest) => (.string t, rest)
  | .error (read, skipped) => (.brokenString read skipped, [])

mutual

/-- Scans a value; `n` bounds the number of steps. -/
def scanValue : Nat → Text → Scan × Text
  | 0, _ => (.broken .eofValue, [])
  | n + 1, t =>
    match skipSpace t with
    | [] => (.broken .eofValue, [])
    | c :: rest =>
      if c == 'n' then scanWord "ull" .null rest
      else if c == 't' then scanWord "rue" (.bool true) rest
      else if c == 'f' then scanWord "alse" (.bool false) rest
      else if c == '-' then scanNumber true rest
      else if c.isDigit then scanNumber false (c :: rest)
      else if c == '"' then scanString rest
      else if c == '[' then
        let (items, rest) := scanItems n true rest
        (.list items, rest)
      else if c == '{' then
        let (fields, rest) := scanFields n true rest
        (.object fields, rest)
      else (.broken .valueExpected, [])

/-- Scans items up to the closing bracket; before the first one no comma is wanted. -/
def scanItems : Nat → (first : Bool) → Text → Items × Text
  | 0, _, _ => (.stop .eof, [])
  | n + 1, first, t =>
    match skipSpace t with
    | [] => (.stop .eof, [])
    | c :: rest =>
      if c == ']' then (.stop .close, rest)
      else if first then
        let (value, rest) := scanValue n (c :: rest)
        let (items, rest) := scanItems n false rest
        (.item value items, rest)
      else if c == ',' then
        match skipSpace rest with
        | [] => (.stop .eofAfterComma, [])
        | c :: rest =>
          if c == ']' then (.stop .trailingComma, [])
          else
            let (value, rest) := scanValue n (c :: rest)
            let (items, rest) := scanItems n false rest
            (.item value items, rest)
      else (.stop .noComma, [])

/-- Scans fields up to the closing brace; before the first one no comma is wanted. -/
def scanFields : Nat → (first : Bool) → Text → Fields × Text
  | 0, _, _ => (.stop .eof, [])
  | n + 1, first, t =>
    match skipSpace t with
    | [] => (.stop .eof, [])
    | c :: rest =>
      if c == '}' then (.stop .close, rest)
      else if first then scanField n (c :: rest)
      else if c == ',' then
        match skipSpace rest with
        | [] => (.stop .eofAfterComma, [])
        | c :: rest =>
          if c == '}' then (.stop .trailingComma, [])
          else scanField n (c :: rest)
      else (.stop .noComma, [])

/-- Scans a field and those after it, from the first character of its key. -/
def scanField : Nat → Text → Fields × Text
  | 0, _ => (.stop .eof, [])
  | n + 1, t =>
    match t with
    | '"' :: rest =>
      match stringToken rest with
      | .error (read, skipped) => (.brokenKey read skipped, [])
      | .ok (key, rest) =>
        match skipSpace rest with
        | ':' :: rest =>
          let (value, rest) := scanValue n rest
          let (fields, rest) := scanFields n false rest
          (.field key value fields, rest)
        | [] => (.field key (.broken .eofObject) (.stop .eof), [])
        | _ => (.field key (.broken .colonExpected) (.stop .eof), [])
    | t => (.badKey (scanValue n t).1, [])

end

/-- The scan of a text, and whether only white space follows the value. Between two characters at
most three steps are taken. -/
def scan (t : Text) : Scan × Bool :=
  let (s, rest) := scanValue (3 * t.length + 3) t
  (s, (skipSpace rest).isEmpty)

/-! ### Passing over values -/

/-- The fault met when no further item follows, by readers of a list. -/
def Stop.itemFault? : Stop → Option Fault
  | close => none
  | eof => some .eofList
  | noComma => some .listCommaOrEnd
  | trailingComma => some .trailingComma
  | eofAfterComma => some .eofValue

/-- The fault met when no further field follows, by readers of an object. -/
def Stop.fieldFault? : Stop → Option Fault
  | close => none
  | eof => some .eofObject
  | noComma => some .objectCommaOrEnd
  | trailingComma => some .trailingComma
  | eofAfterComma => some .eofValue

mutual

/-- The first fault met when a value is passed over. -/
def Scan.skipFault? : Scan → Option Fault
  | .broken f => some f
  | .brokenAtom _ skipped | .brokenString _ skipped => some skipped
  | .null | .bool _ | .number _ | .string _ => none
  | .list items => items.skipFault?
  | .object fields => fields.skipFault?

/-- The first fault met when items are passed over. -/
def Items.skipFault? : Items → Option Fault
  | .stop .trailingComma => some .valueExpected
  | .stop why => why.itemFault?
  | .item value rest => value.skipFault? <|> rest.skipFault?

/-- The first fault met when fields are passed over. -/
def Fields.skipFault? : Fields → Option Fault
  | .stop .trailingComma => some .keyNotString
  | .stop .eofAfterComma => some .eofObject
  | .stop why => why.fieldFault?
  | .badKey _ => some .keyNotString
  | .brokenKey _ skipped => some skipped
  | .field _ value rest => value.skipFault? <|> rest.skipFault?

end

end Marginalia.Json
