import Marginalia.Json.Error

/-!
# Strings in JSON

`quote` writes a text between double quotes; only quotes, backslashes and control characters are
written by an escape. `readString` reads any string, `skipString` passes over one: it looks at the
form of escapes only, so it lets surrogates stand alone.
-/

namespace Marginalia.Json

/-! ### Writing -/

/-- A hexadecimal digit in lower case. -/
def hexDigit (n : Nat) : Char := Nat.digitChar n

/-- A character as it stands in a string. -/
def quoteChar (c : Char) : Text :=
  if c == '"' then ['\\', '"']
  else if c == '\\' then ['\\', '\\']
  else if c == '\x08' then ['\\', 'b']
  else if c == '\x0c' then ['\\', 'f']
  else if c == '\n' then ['\\', 'n']
  else if c == '\r' then ['\\', 'r']
  else if c == '\t' then ['\\', 't']
  else if c.toNat < 0x20 then
    ['\\', 'u', '0', '0', hexDigit (c.toNat / 16), hexDigit (c.toNat % 16)]
  else [c]

/-- The text as a string of JSON. -/
def quote (t : Text) : Text := '"' :: t.flatMap quoteChar ++ ['"']

/-! ### Reading -/

/-- The value of a hexadecimal digit in either case. -/
def hexValue? (c : Char) : Option Nat :=
  if c.isDigit then some (c.toNat - '0'.toNat)
  else if 'a' ≤ c && c ≤ 'f' then some (c.toNat - 'a'.toNat + 10)
  else if 'A' ≤ c && c ≤ 'F' then some (c.toNat - 'A'.toNat + 10)
  else none

/-- The number of bytes of a text. -/
def byteSize (t : Text) : Nat := t.foldr (fun c n => c.utf8Size + n) 0

/-- The code written by four hexadecimal digits. With fewer than four bytes left the text counts as
broken off. -/
def hexCode (t : Text) : Except Fault (Nat × Text) :=
  match (t.take 4).mapM hexValue? with
  | some [a, b, c, d] => .ok (4096 * a + 256 * b + 16 * c + d, t.drop 4)
  | _ => .error (if byteSize t < 4 then .eofString else .invalidEscape)

/-- The code is the first half of a surrogate pair. -/
def isHighSurrogate (n : Nat) : Bool := 0xD800 ≤ n && n ≤ 0xDBFF

/-- The code is the second half of a surrogate pair. -/
def isLowSurrogate (n : Nat) : Bool := 0xDC00 ≤ n && n ≤ 0xDFFF

/-- The second half of a surrogate pair, with its escape. -/
def lowSurrogate (t : Text) : Except Fault (Nat × Text) :=
  match t with
  | [] | ['\\'] => .error .eofString
  | '\\' :: 'u' :: rest =>
    match hexCode rest with
    | .error e => .error e
    | .ok (n, rest) => if isLowSurrogate n then .ok (n, rest) else .error .loneSurrogate
  | _ => .error .hexEscapeEnd

/-- The character written by code, one or two escapes long. -/
def codeChar (t : Text) : Except Fault (Char × Text) :=
  match hexCode t with
  | .error e => .error e
  | .ok (n, rest) =>
    if isLowSurrogate n then .error .loneSurrogate
    else if isHighSurrogate n then
      match lowSurrogate rest with
      | .error e => .error e
      | .ok (low, rest) =>
        .ok (Char.ofNat (0x10000 + 0x400 * (n - 0xD800) + (low - 0xDC00)), rest)
    else .ok (Char.ofNat n, rest)

/-- The character that an escape with one letter stands for. -/
def escapeChar? (c : Char) : Option Char :=
  if c == '"' || c == '\\' || c == '/' then some c
  else if c == 'b' then some '\x08'
  else if c == 'f' then some '\x0c'
  else if c == 'n' then some '\n'
  else if c == 'r' then some '\r'
  else if c == 't' then some '\t'
  else none

/-- The character of an escape, behind its backslash. -/
def unescape (t : Text) : Except Fault (Char × Text) :=
  match t with
  | [] => .error .eofString
  | c :: rest =>
    if c == 'u' then codeChar rest
    else match escapeChar? c with
      | some c => .ok (c, rest)
      | none => .error .invalidEscape

/-- Passes over an escape, behind its backslash. -/
def skipEscape (t : Text) : Except Fault Text :=
  match t with
  | [] => .error .eofString
  | c :: rest =>
    if c == 'u' then (hexCode rest).map Prod.snd
    else if (escapeChar? c).isSome then .ok rest
    else .error .invalidEscape

theorem length_hexCode_le {t rest : Text} {n : Nat} (h : hexCode t = .ok (n, rest)) :
    rest.length ≤ t.length := by
  unfold hexCode at h
  split at h
  · obtain ⟨-, rfl⟩ := Prod.mk.inj (Except.ok.inj h)
    simp
  · cases h

theorem length_lowSurrogate_le {t rest : Text} {n : Nat} (h : lowSurrogate t = .ok (n, rest)) :
    rest.length ≤ t.length := by
  unfold lowSurrogate at h
  split at h
  · cases h
  · cases h
  · split at h
    · cases h
    · rename_i he
      have := length_hexCode_le he
      split at h
      · obtain ⟨-, rfl⟩ := Prod.mk.inj (Except.ok.inj h)
        simp only [List.length_cons]
        omega
      · cases h
  · cases h

theorem length_codeChar_le {t rest : Text} {c : Char} (h : codeChar t = .ok (c, rest)) :
    rest.length ≤ t.length := by
  unfold codeChar at h
  split at h
  · cases h
  · rename_i he
    have h₁ := length_hexCode_le he
    split at h
    · cases h
    · split at h
      · split at h
        · cases h
        · rename_i hl
          have h₂ := length_lowSurrogate_le hl
          obtain ⟨-, rfl⟩ := Prod.mk.inj (Except.ok.inj h)
          omega
      · obtain ⟨-, rfl⟩ := Prod.mk.inj (Except.ok.inj h)
        exact h₁

theorem length_unescape_le {t rest : Text} {c : Char} (h : unescape t = .ok (c, rest)) :
    rest.length ≤ t.length := by
  unfold unescape at h
  split at h
  · cases h
  · split at h
    · exact Nat.le_succ_of_le (length_codeChar_le h)
    · split at h
      · obtain ⟨-, rfl⟩ := Prod.mk.inj (Except.ok.inj h)
        simp
      · cases h

theorem length_skipEscape_le {t rest : Text} (h : skipEscape t = .ok rest) :
    rest.length ≤ t.length := by
  unfold skipEscape at h
  split at h
  · cases h
  · split at h
    · cases he : hexCode _ with
      | error e => rw [he] at h; cases h
      | ok p =>
        rw [he] at h
        cases h
        exact Nat.le_succ_of_le (length_hexCode_le he)
    · split at h
      · cases h
        simp
      · cases h

/-- Reads a string behind its opening quote, up to and with its closing one. -/
def readString (t : Text) : Except Fault (Text × Text) :=
  match t with
  | [] => .error .eofString
  | c :: rest =>
    if c == '"' then .ok ([], rest)
    else if c == '\\' then
      match _h : unescape rest with
      | .error e => .error e
      | .ok (c, rest') =>
        match readString rest' with
        | .error e => .error e
        | .ok (t, after) => .ok (c :: t, after)
    else if c.toNat < 0x20 then .error .controlCharacter
    else
      match readString rest with
      | .error e => .error e
      | .ok (t, after) => .ok (c :: t, after)
termination_by t.length
decreasing_by
  · have := length_unescape_le _h
    simp only [List.length_cons]
    omega
  · simp

/-- Passes over a string behind its opening quote, up to and with its closing one. -/
def skipString (t : Text) : Except Fault Text :=
  match t with
  | [] => .error .eofString
  | c :: rest =>
    if c == '"' then .ok rest
    else if c == '\\' then
      match _h : skipEscape rest with
      | .error e => .error e
      | .ok rest' => skipString rest'
    else if c.toNat < 0x20 then .error .controlCharacter
    else skipString rest
termination_by t.length
decreasing_by
  · have := length_skipEscape_le _h
    simp only [List.length_cons]
    omega
  · simp

end Marginalia.Json
