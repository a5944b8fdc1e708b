import Marginalia.Json.Error

/-!
# Numbers in JSON

A number without fraction and exponent that fits 64 bits is an integer; any other number is a
double. The double is reached by way of a significand of at most 64 bits, further digits left
aside, and one multiplication or division by a power of ten.
-/

namespace Marginalia.Json

/-- A number that was read. -/
inductive Number where
  | integer (i : Int)
  /-- Any other number, as the bits of a double. -/
  | double (bits : UInt64)
deriving DecidableEq, Repr, Inhabited

/-- The digits of a number as written. -/
structure Numeral where
  /-- A minus sign stands in front. -/
  negative : Bool := false
  /-- The digits before the point. -/
  whole : List Char := []
  /-- The digits behind the point; none if there is no point. -/
  fraction : List Char := []
  /-- The sign (negative or not) and the digits of the exponent. -/
  exponent : Option (Bool × List Char) := none
deriving DecidableEq, Repr, Inhabited

/-- The value of a decimal digit. -/
def digitValue (c : Char) : Nat := c.toNat - '0'.toNat

/-- The number written by decimal digits. -/
def digitsValue (ds : List Char) : Nat := ds.foldl (fun n c => 10 * n + digitValue c) 0

/-- Appends digits to a significand as long as it stays below `2 ^ 64`, and counts them. -/
def appendDigits (significand : Nat) : List Char → Nat × Nat
  | [] => (significand, 0)
  | c :: rest =>
    let longer := 10 * significand + digitValue c
    if longer < UInt64.size then
      let (s, count) := appendDigits longer rest
      (s, count + 1)
    else (significand, 0)

/-- Scales a double by a power of ten in steps of at most 308; none if the result is too great. -/
def scale : Nat → Float → Int → Option Float
  | 0, x, _ => some x
  | n + 1, x, e =>
    if e.natAbs ≤ 308 then
      let power := Float.ofScientific 1 false e.natAbs
      if 0 ≤ e then
        let y := x * power
        if y.isInf then none else some y
      else some (x / power)
    else if x == 0 then some x
    else if 0 ≤ e then none
    else scale n (x / Float.ofScientific 1 false 308) (e + 308)

/-- The number `significand * 10 ^ e` as a double. -/
def toDouble (negative : Bool) (significand : Nat) (e : Int) : Except Fault Number :=
  -- Three steps take any significand below `2 ^ 64` to zero.
  match scale 4 (UInt64.ofNat significand).toFloat e with
  | some x => .ok (.double (if negative then -x else x).toBits)
  | none => .error .numberOutOfRange

/-- The number that a numeral stands for. Minus zero is a double. -/
def Numeral.value (n : Numeral) : Except Fault Number :=
  let (s, count) := appendDigits 0 n.whole
  let (significand, behind) := appendDigits s n.fraction
  let point : Int := (n.whole.length : Int) - count - behind
  match n.exponent with
  | some (negative, digits) =>
    let e := digitsValue digits
    if e < 0x80000000 then
      toDouble n.negative significand (if negative then point - e else point + e)
    else if significand != 0 && !negative then .error .numberOutOfRange
    else toDouble n.negative 0 0
  | none =>
    if !n.fraction.isEmpty || count < n.whole.length then toDouble n.negative significand point
    else if !n.negative then .ok (.integer s)
    else if s == 0 || 0x8000000000000000 < s then toDouble true s 0
    else .ok (.integer (-s))

/-! ### Reading the digits -/

/-- What is wrong where a digit should follow: reading for a value tells the end of the text apart,
passing over the value does not. -/
def digitMissing (rest : Text) : Fault × Fault :=
  (if rest.isEmpty then .eofValue else .invalidNumber, .invalidNumber)

/-- Reads the exponent of a numeral, if there is one. -/
def readExponent (n : Numeral) (t : Text) : Except (Fault × Fault) (Numeral × Text) :=
  match t with
  | c :: rest =>
    if c == 'e' || c == 'E' then
      let (negative, rest) := match rest with
        | '+' :: rest => (false, rest)
        | '-' :: rest => (true, rest)
        | rest => (false, rest)
      let digits := rest.takeWhile Char.isDigit
      if digits.isEmpty then .error (digitMissing rest)
      else .ok ({ n with exponent := some (negative, digits) }, rest.dropWhile Char.isDigit)
    else .ok (n, t)
  | [] => .ok (n, t)

/-- Reads a numeral behind its sign. The errors are that of reading and that of passing over. -/
def readNumeral (negative : Bool) (t : Text) : Except (Fault × Fault) (Numeral × Text) :=
  let whole := t.takeWhile Char.isDigit
  let rest := t.dropWhile Char.isDigit
  if whole.isEmpty then .error (digitMissing t)
  else if whole.head? == some '0' && 1 < whole.length then .error (.invalidNumber, .invalidNumber)
  else
    match rest with
    | '.' :: rest =>
      let fraction := rest.takeWhile Char.isDigit
      if fraction.isEmpty then .error (digitMissing rest)
      else readExponent { negative, whole, fraction } (rest.dropWhile Char.isDigit)
    | rest => readExponent { negative, whole } rest

end Marginalia.Json
