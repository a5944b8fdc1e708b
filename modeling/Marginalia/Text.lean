import Marginalia.Text.Blank

/-!
# Texts: trimming, cutting, lines

A text is its list of characters.

* `trim`, `trimStart`, `trimEnd` drop blank characters at the ends, `isBlank` says that none remain.
* `cutAt` cuts a text in two at the first occurrence of a character.
* `lines` gives the lines of a text: the pieces between line feeds, a carriage return before the
  line feed dropped, without the empty piece after a final line feed.
-/

namespace Marginalia

/-- A text is the list of its characters. -/
abbrev Text := List Char

namespace Text

/-! ### Blank ends -/

/-- The text without its leading blank characters. -/
def trimStart (t : Text) : Text := t.dropWhile Marginalia.isBlank

/-- The text without its trailing blank characters. -/
def trimEnd (t : Text) : Text := (t.reverse.dropWhile Marginalia.isBlank).reverse

/-- The text without blank characters at either end. -/
def trim (t : Text) : Text := trimEnd (trimStart t)

/-- All characters of the text are blank. -/
def isBlank (t : Text) : Bool := t.all Marginalia.isBlank

/-- The number of blank characters in front. -/
def indent (t : Text) : Nat := (t.takeWhile Marginalia.isBlank).length

/-! ### Cutting -/

/-- The parts of the text before and after the first `c`. -/
def cutAt (c : Char) (t : Text) : Option (Text × Text) :=
  match t.dropWhile (· != c) with
  | [] => none
  | _ :: after => some (t.takeWhile (· != c), after)

/-- The nonempty trimmed pieces of the text between commas. -/
def commaPieces (t : Text) : List Text :=
  ((t.splitOn ',').map trim).filter (!·.isEmpty)

/-! ### Lines -/

/-- The text without a carriage return at its end. -/
def dropReturn (t : Text) : Text :=
  if t.getLast? = some '\r' then t.dropLast else t

/-- The lines of a text. Each line feed ends a line, with the carriage return before it; what
follows the last line feed is a line if it is not empty. -/
def lines (t : Text) : List Text :=
  let pieces := t.splitOn '\n'
  let last := pieces.getLast?.getD []
  pieces.dropLast.map dropReturn ++ if last.isEmpty then [] else [last]

/-- The texts one after the other, with `sep` between them. -/
def join (sep : Text) (ts : List Text) : Text := sep.intercalate ts

/-- The natural number as decimal digits. -/
def ofNat (n : Nat) : Text := Nat.toDigits 10 n

/-- The integer as decimal digits, after a minus sign if negative. -/
def ofInt : Int → Text
  | .ofNat n => ofNat n
  | .negSucc n => '-' :: ofNat (n + 1)

/-! ### Reading numbers -/

/-- The number written by the decimal digits of a nonempty text. -/
def digits? (t : Text) : Option Nat :=
  if !t.isEmpty && t.all Char.isDigit then
    some (t.foldl (fun n c => 10 * n + (c.toNat - '0'.toNat)) 0)
  else none

/-- A natural number below `2 ^ 64`, with an optional plus sign. -/
def readNat? (t : Text) : Option Nat :=
  let body := match t with
    | '+' :: rest => rest
    | t => t
  (digits? body).filter (· < UInt64.size)

/-- An integer from `-2 ^ 31` up to and without `2 ^ 31`, with an optional sign. -/
def readInt? (t : Text) : Option Int :=
  match t with
  | '-' :: rest => ((digits? rest).filter (· ≤ 0x80000000)).map fun n => -(n : Int)
  | '+' :: rest => ((digits? rest).filter (· < 0x80000000)).map fun n => (n : Int)
  | t => ((digits? t).filter (· < 0x80000000)).map fun n => (n : Int)

/-! ### Small laws -/

/-- The cut loses nothing but the character cut at. -/
theorem eq_append_of_cutAt {c : Char} {t before after : Text}
    (h : cutAt c t = some (before, after)) : t = before ++ c :: after := by
  unfold cutAt at h
  split at h
  · cases h
  · rename_i x rest hd
    obtain ⟨rfl, rfl⟩ := Prod.mk.inj (Option.some.inj h)
    have hx : x = c := by
      have := List.head?_dropWhile_not (· != c) t
      rw [hd] at this
      simpa using this
    subst hx
    rw [← hd, List.takeWhile_append_dropWhile]

end Text

end Marginalia
