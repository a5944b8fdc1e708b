/-!
# Shortest decimals

A double stands for a real number `m * 2 ^ q`, and all reals nearer to it than to any other double
round to it. `shortest` finds the decimal with the fewest digits among them, and of those with as
few digits the nearest one.
-/

namespace Marginalia.Decimal

/-- A finite double without its sign: `m * 2 ^ q`, and whether the double below is nearer than the
one above. -/
structure Binary where
  /-- The significand. -/
  m : Nat
  /-- The exponent. -/
  q : Int
  /-- The next double below is half as far away as the next one above. -/
  narrowBelow : Bool

/-- The parts of a finite double, given by its bits. -/
def Binary.ofBits (bits : UInt64) : Binary :=
  let fraction := (bits &&& 0xFFFFFFFFFFFFF).toNat
  let exponent := ((bits >>> 52) &&& 0x7FF).toNat
  if exponent == 0 then ⟨fraction, -1074, false⟩
  else ⟨0x10000000000000 + fraction, (exponent : Int) - 1075, fraction == 0 && 1 < exponent⟩

/-- A decimal number `digits * 10 ^ exponent`. -/
structure Number where
  /-- The digits as a natural number. -/
  digits : Nat
  /-- The power of ten. -/
  exponent : Int
deriving DecidableEq, Repr

/-- The power of the base, split into a factor of the numerator and one of the denominator. -/
def power (base : Nat) (e : Int) : Nat × Nat := (base.pow e.toNat, base.pow (-e).toNat)

/-- The decimal `d * 10 ^ k` rounds to the double. The ends of the interval round to an even
significand. Everything is compared in units of a quarter of the last binary place. -/
def Binary.hits (b : Binary) (d : Nat) (k : Int) : Bool :=
  let (tenUp, tenDown) := power 10 k
  let (twoUp, twoDown) := power 2 b.q
  let x := 4 * d * tenUp * twoDown
  let scale := tenDown * twoUp
  let low := (4 * b.m - if b.narrowBelow then 1 else 2) * scale
  let high := (4 * b.m + 2) * scale
  if b.m % 2 == 0 then low ≤ x && x ≤ high else low < x && x < high

/-- The double divided by `10 ^ k`, rounded down. -/
def Binary.quotient (b : Binary) (k : Int) : Nat :=
  let (tenUp, tenDown) := power 10 k
  let (twoUp, twoDown) := power 2 b.q
  b.m * twoUp * tenDown / (tenUp * twoDown)

/-- The decimal `d * 10 ^ k` is at least as near to the double as the next one on its grid. -/
def Binary.nearer (b : Binary) (d : Nat) (k : Int) : Bool :=
  let (tenUp, tenDown) := power 10 k
  let (twoUp, twoDown) := power 2 b.q
  2 * b.m * twoUp * tenDown ≤ (2 * d + 1) * tenUp * twoDown

/-- The decimal on the grid of `10 ^ k` next to the double, if one of them rounds to it. -/
def Binary.onGrid? (b : Binary) (k : Int) : Option Number :=
  let d := b.quotient k
  match b.hits d k, b.hits (d + 1) k with
  | true, true => some ⟨if b.nearer d k then d else d + 1, k⟩
  | true, false => some ⟨d, k⟩
  | false, true => some ⟨d + 1, k⟩
  | false, false => none

/-- The first hit on the grids of `10 ^ k`, `10 ^ (k - 1)` and so on, `n` of them. -/
def Binary.search (b : Binary) : Nat → Int → Option Number
  | 0, _ => none
  | n + 1, k => b.onGrid? k <|> b.search n (k - 1)

/-- Moves zeros at the end of the digits into the exponent, at most `n` of them. -/
def Number.reduce : Nat → Number → Number
  | 0, d => d
  | n + 1, d =>
    if d.digits != 0 && d.digits % 10 == 0 then
      reduce n ⟨d.digits / 10, d.exponent + 1⟩
    else d

/-- The shortest decimal that rounds to a finite double other than zero, given by its bits. -/
def shortest (bits : UInt64) : Number :=
  let b := Binary.ofBits bits
  -- No double needs more than 17 digits, and none is as great as `10 ^ 309`.
  ((b.search 640 309).getD ⟨b.m, b.q⟩).reduce 20

end Marginalia.Decimal
