/-!
# Ranges of code points

A character property is given by the closed ranges of code points that have it, in increasing order.
Two notations are in use: a list of pairs, where proofs look into the table, and a table of
hexadecimal numbers, where the table is only searched.
-/

namespace Marginalia

/-- Disjoint closed ranges of code points, in increasing order. -/
abbrev Ranges := List (Nat × Nat)

namespace Ranges

/-- Whether the code point `n` lies in one of the ranges. -/
def contains (r : Ranges) (n : Nat) : Bool :=
  r.any fun p => p.1 ≤ n && n ≤ p.2

/-- The value of a hexadecimal digit, in lower case. -/
def hexDigit? (c : Char) : Option Nat :=
  if '0' ≤ c ∧ c ≤ '9' then some (c.toNat - '0'.toNat)
  else if 'a' ≤ c ∧ c ≤ 'f' then some (c.toNat - 'a'.toNat + 10)
  else none

/-- The number written by the leading hexadecimal digits. -/
def hexNumber (cs : List Char) : Nat :=
  (cs.filterMap hexDigit?).foldl (fun n d => 16 * n + d) 0

/-- Reads `41-5a 5f 61-7a`: ranges apart by blanks or line ends, a single code point without a
dash. -/
def ofHex (table : String) : Ranges :=
  (table.toList.splitOnP fun c => c == ' ' || c == '\n').filterMap fun word =>
    match word.splitOn '-' with
    | [lo, hi] => some (hexNumber lo, hexNumber hi)
    | [one] => if one.isEmpty then none else some (hexNumber one, hexNumber one)
    | _ => none

end Ranges

end Marginalia
