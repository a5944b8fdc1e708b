import Marginalia.Decimal.Shortest
import Marginalia.Text.Quoted

/-!
# Errors in JSON

A text may fail to be JSON (`Fault`), or be JSON of another form than asked for. `Error.message`
puts each error into words.
-/

namespace Marginalia.Json

/-- Why a text is not JSON. -/
inductive Fault where
  | eofList
  | eofObject
  | eofString
  | eofValue
  | colonExpected
  | listCommaOrEnd
  | objectCommaOrEnd
  | wordExpected
  | valueExpected
  | invalidEscape
  | invalidNumber
  | numberOutOfRange
  | controlCharacter
  | keyNotString
  | loneSurrogate
  | hexEscapeEnd
  | trailingComma
  | trailingCharacters
  | recursionLimit
deriving DecidableEq, Repr, Inhabited

/-- The fault in words. -/
def Fault.message : Fault → String
  | eofList => "EOF while parsing a list"
  | eofObject => "EOF while parsing an object"
  | eofString => "EOF while parsing a string"
  | eofValue => "EOF while parsing a value"
  | colonExpected => "expected `:`"
  | listCommaOrEnd => "expected `,` or `]`"
  | objectCommaOrEnd => r"expected `,` or `}`"
  | wordExpected => "expected ident"
  | valueExpected => "expected value"
  | invalidEscape => "invalid escape"
  | invalidNumber => "invalid number"
  | numberOutOfRange => "number out of range"
  | controlCharacter =>
    "control character (\\u0000-\\u001F) found while parsing a string"
  | keyNotString => "key must be a string"
  | loneSurrogate => "lone leading surrogate in hex escape"
  | hexEscapeEnd => "unexpected end of hex escape"
  | trailingComma => "trailing comma"
  | trailingCharacters => "trailing characters"
  | recursionLimit => "recursion limit exceeded"

/-- What was found instead of what was asked for. -/
inductive Unexpected where
  | bool (b : Bool)
  | integer (i : Int)
  /-- A number that is no integer, as the bits of a double. -/
  | double (bits : UInt64)
  | text (t : Text)
  | null
  | list
  | map
  | unitVariant
deriving DecidableEq, Repr, Inhabited

/-- Why a JSON text has another form than asked for, or none. -/
inductive Error where
  | fault (f : Fault)
  | invalidType (found : Unexpected) (expected : Text)
  | invalidValue (found : Unexpected) (expected : Text)
  | invalidLength (length : Nat) (expected : Text)
  | missingField (name : Text)
  | duplicateField (name : Text)
  | unknownVariant (name : Text) (known : List Text)
deriving DecidableEq, Repr, Inhabited

/-! ### Numbers -/

/-- How a double is written: in positions if its leading digit stands for `10 ^ -5` up to `10 ^ 15`,
with at least one digit behind the point; otherwise with an exponent that has a sign. -/
def doubleText (bits : UInt64) : Text :=
  let sign : Text := if bits >>> 63 == 1 then ['-'] else []
  if bits <<< 1 == 0 then sign ++ "0.0".toList
  else
    let d := Decimal.shortest bits
    let digits := Text.ofNat d.digits
    let leading := d.exponent + digits.length - 1
    let zeros (n : Int) : Text := List.replicate n.toNat '0'
    sign ++
      if 0 ≤ d.exponent && leading ≤ 15 then digits ++ zeros d.exponent ++ ".0".toList
      else if 0 ≤ leading && leading ≤ 15 then
        let whole := (leading + 1).toNat
        digits.take whole ++ '.' :: digits.drop whole
      else if -5 ≤ leading && leading < 0 then "0.".toList ++ zeros (-leading - 1) ++ digits
      else
        digits.take 1 ++ (if digits.length == 1 then [] else '.' :: digits.drop 1) ++
          ['e', if 0 ≤ leading then '+' else '-'] ++ Text.ofNat leading.natAbs

/-! ### Messages -/

/-- The value in words. -/
def Unexpected.message : Unexpected → Text
  | bool b => "boolean `".toList ++ (if b then "true" else "false").toList ++ ['`']
  | integer i => "integer `".toList ++ Text.ofInt i ++ ['`']
  | double bits => "floating point `".toList ++ doubleText bits ++ ['`']
  | text t => "string ".toList ++ Text.quoted t
  | null => "null".toList
  | list => "sequence".toList
  | map => "map".toList
  | unitVariant => "unit variant".toList

/-- The names that were expected, in words. -/
def oneOf (names : List Text) : Text :=
  let quoted := names.map fun n => '`' :: n ++ ['`']
  match quoted with
  | [] => "there are no variants".toList
  | [a] => "expected ".toList ++ a
  | [a, b] => "expected ".toList ++ a ++ " or ".toList ++ b
  | _ => "expected one of ".toList ++ Text.join ", ".toList quoted

/-- The error in words. -/
def Error.message : Error → Text
  | fault f => f.message.toList
  | invalidType found expected =>
    "invalid type: ".toList ++ found.message ++ ", expected ".toList ++ expected
  | invalidValue found expected =>
    "invalid value: ".toList ++ found.message ++ ", expected ".toList ++ expected
  | invalidLength length expected =>
    "invalid length ".toList ++ Text.ofNat length ++ ", expected ".toList ++ expected
  | missingField name => "missing field `".toList ++ name ++ ['`']
  | duplicateField name => "duplicate field `".toList ++ name ++ ['`']
  | unknownVariant name known =>
    "unknown variant `".toList ++ name ++ "`, ".toList ++ oneOf known

end Marginalia.Json
