import Marginalia.Text

/-!
# Bytes of a text

A text is kept in files as UTF-8. `encode` writes it; `decode?` reads it back and refuses anything
else; `decodeLossy` reads any bytes and puts a replacement character for each longest piece that is
not the beginning of a character, or for the beginning of a character that breaks off.

All three go through `step`, which reads one character or the piece in its place.
-/

namespace Marginalia.Utf8

/-- Bytes, as in a file. -/
abbrev Bytes := List UInt8

/-- The bytes of a code point. -/
def encodeCode (n : Nat) : List Nat :=
  if n < 0x80 then [n]
  else if n < 0x800 then [0xC0 + n / 0x40, 0x80 + n % 0x40]
  else if n < 0x10000 then [0xE0 + n / 0x1000, 0x80 + n / 0x40 % 0x40, 0x80 + n % 0x40]
  else [0xF0 + n / 0x40000, 0x80 + n / 0x1000 % 0x40, 0x80 + n / 0x40 % 0x40, 0x80 + n % 0x40]

/-- The bytes of a character. -/
def encodeChar (c : Char) : Bytes := (encodeCode c.toNat).map UInt8.ofNat

/-- The bytes of a text. -/
def encode (t : Text) : Bytes := t.flatMap encodeChar

/-- The byte continues a character. -/
def isContinuation (b : UInt8) : Bool := 0x80 ≤ b && b < 0xC0

/-- The number of bytes of the character that starts with `b`, and the least and greatest value of
its second byte; none if no character starts so. -/
def shape? (b : UInt8) : Option (Nat × UInt8 × UInt8) :=
  if b < 0x80 then some (1, 0, 0)
  else if b < 0xC2 then none
  else if b < 0xE0 then some (2, 0x80, 0xBF)
  else if b == 0xE0 then some (3, 0xA0, 0xBF)
  else if b == 0xED then some (3, 0x80, 0x9F)
  else if b < 0xF0 then some (3, 0x80, 0xBF)
  else if b == 0xF0 then some (4, 0x90, 0xBF)
  else if b < 0xF4 then some (4, 0x80, 0xBF)
  else if b == 0xF4 then some (4, 0x80, 0x8F)
  else none

/-- The bits that a continuation byte carries. -/
def payload (b : UInt8) : Nat := b.toNat % 0x40

/-- Reads one character from its first byte and what follows; none in its place if the bytes begin
no character, with the longest piece passed over that could have begun one. -/
def step (b : UInt8) (rest : Bytes) : Option Char × Bytes :=
  match shape? b with
  | none => (none, rest)
  | some (1, _, _) => (some (Char.ofNat b.toNat), rest)
  | some (length, least, greatest) =>
    match rest with
    | [] => (none, [])
    | b₁ :: rest₁ =>
      if b₁ < least || greatest < b₁ then (none, rest)
      else if length == 2 then
        (some (Char.ofNat (b.toNat % 0x20 * 0x40 + payload b₁)), rest₁)
      else
        match rest₁ with
        | [] => (none, [])
        | b₂ :: rest₂ =>
          if !isContinuation b₂ then (none, rest₁)
          else if length == 3 then
            (some (Char.ofNat (b.toNat % 0x10 * 0x1000 + payload b₁ * 0x40 + payload b₂)), rest₂)
          else
            match rest₂ with
            | [] => (none, [])
            | b₃ :: rest₃ =>
              if !isContinuation b₃ then (none, rest₂)
              else
                (some (Char.ofNat (b.toNat % 8 * 0x40000 + payload b₁ * 0x1000 +
                  payload b₂ * 0x40 + payload b₃)), rest₃)

/-- A step passes over its first byte at least. -/
theorem length_step_le (b : UInt8) (rest : Bytes) : (step b rest).2.length ≤ rest.length := by
  unfold step
  repeat' split
  all_goals simp_all
  all_goals omega

/-- The replacement character. -/
def replacement : Char := '\uFFFD'

/-- The characters that the bytes hold, each `none` for a piece that is no character. -/
def pieces : Bytes → List (Option Char)
  | [] => []
  | b :: rest => (step b rest).1 :: pieces (step b rest).2
termination_by bs => bs.length
decreasing_by exact Nat.lt_succ_of_le (length_step_le b rest)

/-- Reads any bytes as a text. -/
def decodeLossy (bs : Bytes) : Text := (pieces bs).map fun c => c.getD replacement

/-- Reads bytes that are UTF-8. -/
def decode? (bs : Bytes) : Option Text := (pieces bs).mapM id

end Marginalia.Utf8
