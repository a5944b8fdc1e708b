import Marginalia.Json.Scan
import Mathlib.Tactic.SplitIfs

/-!
# Strings that were written

A character is written by an escape with one letter, by its code or as it is (`Quoted`). Each of
them is read as the character (`Quoted.readString`) and passed over as a whole
(`Quoted.skipString`), so a written string is read as its text and ends where it was closed
(`stringToken_quote`).
-/

namespace Marginalia.Json

variable {c : Char} {t w rest after : Text}

/-! ### The code of an escape -/

theorem hexValue?_hexDigit : ∀ n < 16, hexValue? (hexDigit n) = some n := by decide

theorem hexCode_of_lt {n : Nat} (hn : n < 0x20) (rest : Text) :
    hexCode ('0' :: '0' :: hexDigit (n / 16) :: hexDigit (n % 16) :: rest) = .ok (n, rest) := by
  have hzero : hexValue? '0' = some 0 := rfl
  have hhigh := hexValue?_hexDigit (n / 16) (by omega)
  have hlow := hexValue?_hexDigit (n % 16) (by omega)
  have hdigits : (['0', '0', hexDigit (n / 16), hexDigit (n % 16)]).mapM hexValue? =
      some [0, 0, n / 16, n % 16] := by
    simp [hzero, hhigh, hlow]
  have hvalue : 16 * (n / 16) + n % 16 = n := by omega
  simp [hexCode, hdigits, hvalue]

theorem codeChar_of_lt (hc : c.toNat < 0x20) (rest : Text) :
    codeChar ('0' :: '0' :: hexDigit (c.toNat / 16) :: hexDigit (c.toNat % 16) :: rest) =
      .ok (c, rest) := by
  have hlow : isLowSurrogate c.toNat = false := by
    simp only [isLowSurrogate, Bool.and_eq_false_iff, decide_eq_false_iff_not]
    omega
  have hhigh : isHighSurrogate c.toNat = false := by
    simp only [isHighSurrogate, Bool.and_eq_false_iff, decide_eq_false_iff_not]
    omega
  simp only [codeChar, hexCode_of_lt hc, hlow, hhigh, Bool.false_eq_true, if_false,
    Char.ofNat_toNat]

/-! ### Behind a backslash -/

section Letter

variable {letter : Char} (hu : letter ≠ 'u') (he : escapeChar? letter = some c)

include hu he

theorem unescape_letter (rest : Text) : unescape (letter :: rest) = .ok (c, rest) := by
  rw [unescape, if_neg (by simpa using hu), he]

theorem skipEscape_letter (rest : Text) : skipEscape (letter :: rest) = .ok rest := by
  rw [skipEscape, if_neg (by simpa using hu), he]
  rfl

end Letter

theorem unescape_code (hc : c.toNat < 0x20) (rest : Text) :
    unescape ('u' :: '0' :: '0' :: hexDigit (c.toNat / 16) :: hexDigit (c.toNat % 16) :: rest) =
      .ok (c, rest) := by
  rw [unescape, if_pos (beq_self_eq_true _), codeChar_of_lt hc]

theorem skipEscape_code (hc : c.toNat < 0x20) (rest : Text) :
    skipEscape ('u' :: '0' :: '0' :: hexDigit (c.toNat / 16) :: hexDigit (c.toNat % 16) :: rest) =
      .ok rest := by
  rw [skipEscape, if_pos (beq_self_eq_true _), hexCode_of_lt hc]
  rfl

/-! ### One character -/

theorem readString_close (rest : Text) : readString ('"' :: rest) = .ok ([], rest) := by
  rw [readString]
  rfl

theorem skipString_close (rest : Text) : skipString ('"' :: rest) = .ok rest := by
  rw [skipString]
  rfl

theorem readString_escape {after' : Text} (hu : unescape rest = .ok (c, after'))
    (hr : readString after' = .ok (t, after)) :
    readString ('\\' :: rest) = .ok (c :: t, after) := by
  rw [readString]
  simp only [Char.reduceBEq, Bool.false_eq_true, if_false, if_true]
  split
  · simp_all
  · simp_all

theorem skipString_escape {after' : Text} (hu : skipEscape rest = .ok after') :
    skipString ('\\' :: rest) = skipString after' := by
  rw [skipString]
  simp only [Char.reduceBEq, Bool.false_eq_true, if_false, if_true]
  split
  · simp_all
  · simp_all

theorem readString_cons (hq : c ≠ '"') (hs : c ≠ '\\') (hc : ¬ c.toNat < 0x20)
    (hr : readString rest = .ok (t, after)) : readString (c :: rest) = .ok (c :: t, after) := by
  rw [readString]
  simp only [beq_eq_false_iff_ne.mpr hq, beq_eq_false_iff_ne.mpr hs, hc, Bool.false_eq_true,
    if_false, hr]

theorem skipString_cons (hq : c ≠ '"') (hs : c ≠ '\\') (hc : ¬ c.toNat < 0x20) (rest : Text) :
    skipString (c :: rest) = skipString rest := by
  rw [skipString]
  simp only [beq_eq_false_iff_ne.mpr hq, beq_eq_false_iff_ne.mpr hs, hc, Bool.false_eq_true,
    if_false]

/-- How a character can be written. -/
inductive Quoted (c : Char) : Text → Prop where
  /-- By an escape with one letter. -/
  | escape (letter : Char) (hu : letter ≠ 'u') (he : escapeChar? letter = some c) :
      Quoted c ['\\', letter]
  /-- By its code. -/
  | code (hc : c.toNat < 0x20) :
      Quoted c ['\\', 'u', '0', '0', hexDigit (c.toNat / 16), hexDigit (c.toNat % 16)]
  /-- As it is. -/
  | self (hq : c ≠ '"') (hs : c ≠ '\\') (hc : ¬ c.toNat < 0x20) : Quoted c [c]

theorem quoted_quoteChar (c : Char) : Quoted c (quoteChar c) := by
  unfold quoteChar
  split_ifs with h₁ h₂ h₃ h₄ h₅ h₆ h₇ h₈
  · exact eq_of_beq h₁ ▸ .escape '"' (by decide) rfl
  · exact eq_of_beq h₂ ▸ .escape '\\' (by decide) rfl
  · exact eq_of_beq h₃ ▸ .escape 'b' (by decide) rfl
  · exact eq_of_beq h₄ ▸ .escape 'f' (by decide) rfl
  · exact eq_of_beq h₅ ▸ .escape 'n' (by decide) rfl
  · exact eq_of_beq h₆ ▸ .escape 'r' (by decide) rfl
  · exact eq_of_beq h₇ ▸ .escape 't' (by decide) rfl
  · exact .code h₈
  · exact .self (by simpa using h₁) (by simpa using h₂) h₈

theorem Quoted.readString (h : Quoted c w) (hr : readString rest = .ok (t, after)) :
    readString (w ++ rest) = .ok (c :: t, after) := by
  cases h with
  | escape letter hu he => exact readString_escape (unescape_letter hu he rest) hr
  | code hc => exact readString_escape (unescape_code hc rest) hr
  | self hq hs hc => exact readString_cons hq hs hc hr

theorem Quoted.skipString (h : Quoted c w) (rest : Text) :
    skipString (w ++ rest) = skipString rest := by
  cases h with
  | escape letter hu he => exact skipString_escape (skipEscape_letter hu he rest)
  | code hc => exact skipString_escape (skipEscape_code hc rest)
  | self hq hs hc => exact skipString_cons hq hs hc rest

/-! ### A whole string -/

/-- **Strings**: behind its opening quote a written string is read as its text. -/
theorem stringToken_quote (t rest : Text) :
    stringToken (t.flatMap quoteChar ++ '"' :: rest) = .ok (.ok t, rest) := by
  have hread : readString (t.flatMap quoteChar ++ '"' :: rest) = .ok (t, rest) := by
    induction t with
    | nil => exact readString_close rest
    | cons c t ih =>
      rw [List.flatMap_cons, List.append_assoc]
      exact (quoted_quoteChar c).readString ih
  have hskip : skipString (t.flatMap quoteChar ++ '"' :: rest) = .ok rest := by
    clear hread
    induction t with
    | nil => exact skipString_close rest
    | cons c t ih => rw [List.flatMap_cons, List.append_assoc, (quoted_quoteChar c).skipString, ih]
  rw [stringToken, hskip, hread]
  rfl

end Marginalia.Json
