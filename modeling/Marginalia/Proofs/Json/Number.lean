import Marginalia.Json.Scan
import Mathlib.Data.List.TakeWhile
import Mathlib.Tactic.SplitIfs

/-!
# Integers that were written

A natural number is written by its decimal digits, without a zero in front unless it is zero
(`head?_ofNat_ne`). Where nothing follows that could belong to a number (`EndsNumber`), the digits
are read as they are (`readNumeral_ofNat`), and an integer of 64 bits comes back from them
(`scanNumber_ofNat`, `scanNumber_neg`).
-/

namespace Marginalia.Json

variable {n : Nat} {rest : Text}

/-! ### Digits -/

/-- The text does not go on with a number. -/
def EndsNumber (rest : Text) : Prop :=
  ∀ c ∈ rest.head?, (c.isDigit || c == '.' || c == 'e' || c == 'E') = false

theorem EndsNumber.dropWhile (h : EndsNumber rest) : rest.dropWhile Char.isDigit = rest := by
  cases rest with
  | nil => rfl
  | cons c rest =>
    have hc := h c rfl
    simp only [Bool.or_eq_false_iff] at hc
    exact List.dropWhile_cons_of_neg (by simp [hc.1.1.1])

theorem EndsNumber.takeWhile (h : EndsNumber rest) : rest.takeWhile Char.isDigit = [] := by
  have happend := List.takeWhile_append_dropWhile (p := Char.isDigit) (l := rest)
  rwa [h.dropWhile, List.append_left_eq_self] at happend

theorem isDigit_of_mem_ofNat {c : Char} (hc : c ∈ Text.ofNat n) : c.isDigit = true :=
  Nat.isDigit_of_mem_toDigits (by decide) (by decide) hc

theorem exists_ofNat_eq_cons (n : Nat) : ∃ c ds, Text.ofNat n = c :: ds ∧ c.isDigit = true := by
  obtain ⟨c, ds, hds⟩ : ∃ c ds, Text.ofNat n = c :: ds :=
    List.exists_cons_of_ne_nil Nat.toDigits_ne_nil
  exact ⟨c, ds, hds, isDigit_of_mem_ofNat (hds ▸ List.mem_cons_self)⟩

/-- There is no zero in front. -/
theorem head?_ofNat_ne (hn : n ≠ 0) : (Text.ofNat n).head? ≠ some '0' := by
  induction n using Nat.strongRecOn with
  | ind n ih =>
    by_cases hlt : n < 10
    · rw [Text.ofNat, Nat.toDigits_of_lt_base hlt]
      simpa using hn
    · have hhead := ih (n / 10) (by omega) (by omega)
      obtain ⟨c, ds, hds, -⟩ := exists_ofNat_eq_cons (n / 10)
      rw [hds] at hhead
      rw [Text.ofNat] at hds
      rwa [Text.ofNat, Nat.toDigits_of_base_le (by decide) (by omega), hds]

/-- Digits are appended to a significand as long as the number they write fits. -/
theorem appendDigits_eq {ds : List Char} {s : Nat}
    (h : ds.foldl (fun n c => 10 * n + digitValue c) s < UInt64.size) :
    appendDigits s ds = (ds.foldl (fun n c => 10 * n + digitValue c) s, ds.length) := by
  have hle : ∀ (ds : List Char) (s : Nat), s ≤ ds.foldl (fun n c => 10 * n + digitValue c) s := by
    intro ds
    induction ds with
    | nil => exact fun s => Nat.le_refl s
    | cons c ds ih =>
      intro s
      have := ih (10 * s + digitValue c)
      rw [List.foldl_cons]
      omega
  induction ds generalizing s with
  | nil => rfl
  | cons c ds ih =>
    rw [List.foldl_cons] at h
    have hlonger := hle ds (10 * s + digitValue c)
    rw [appendDigits, if_pos (by omega), ih h, List.foldl_cons, List.length_cons]

theorem digitsValue_ofNat (n : Nat) : digitsValue (Text.ofNat n) = n := by
  have h := Nat.ofDigitChars_ten_toDigits (n := n)
  rwa [Nat.ofDigitChars_eq_foldl] at h

theorem appendDigits_ofNat (hn : n < UInt64.size) :
    appendDigits 0 (Text.ofNat n) = (n, (Text.ofNat n).length) := by
  have hvalue : (Text.ofNat n).foldl (fun n c => 10 * n + digitValue c) 0 = n :=
    digitsValue_ofNat n
  rw [appendDigits_eq (by rw [hvalue]; exact hn), hvalue]

/-! ### Numerals -/

theorem readNumeral_ofNat (negative : Bool) (n : Nat) (hr : EndsNumber rest) :
    readNumeral negative (Text.ofNat n ++ rest) =
      .ok ({ negative, whole := Text.ofNat n }, rest) := by
  have hdigit : ∀ c ∈ Text.ofNat n, c.isDigit = true := fun c hc => isDigit_of_mem_ofNat hc
  have htake : (Text.ofNat n ++ rest).takeWhile Char.isDigit = Text.ofNat n := by
    rw [List.takeWhile_append_of_pos hdigit, hr.takeWhile, List.append_nil]
  have hdrop : (Text.ofNat n ++ rest).dropWhile Char.isDigit = rest := by
    rw [List.dropWhile_append_of_pos hdigit, hr.dropWhile]
  have hne : (Text.ofNat n).isEmpty = false := by
    rw [List.isEmpty_eq_false_iff]
    exact Nat.toDigits_ne_nil
  have hzero : ((Text.ofNat n).head? == some '0' && decide (1 < (Text.ofNat n).length)) =
      false := by
    by_cases hn : n = 0
    · rw [hn]
      rfl
    · rw [beq_eq_false_iff_ne.mpr (head?_ofNat_ne hn), Bool.false_and]
  simp only [readNumeral, htake, hdrop, hne, hzero, Bool.false_eq_true, if_false]
  cases rest with
  | nil => rfl
  | cons c rest =>
    have hc := hr c rfl
    simp only [Bool.or_eq_false_iff, beq_eq_false_iff_ne] at hc
    split
    · rename_i heq
      exact absurd (List.cons.inj heq).1 hc.1.1.2
    · simp [readExponent, hc.1.2, hc.2]

/-! ### Integers -/

theorem scanNumber_ofNat (hn : n < UInt64.size) (hr : EndsNumber rest) :
    scanNumber false (Text.ofNat n ++ rest) = (.number (.ok (.integer n)), rest) := by
  have hvalue : (Numeral.value { whole := Text.ofNat n }) = .ok (.integer n) := by
    simp [Numeral.value, appendDigits_ofNat hn]
  rw [scanNumber, readNumeral_ofNat false n hr]
  exact congrArg (fun v => (Scan.number v, rest)) hvalue

theorem scanNumber_neg (hn : n ≠ 0) (hn' : n ≤ 0x8000000000000000) (hr : EndsNumber rest) :
    scanNumber true (Text.ofNat n ++ rest) = (.number (.ok (.integer (-n))), rest) := by
  have hvalue : (Numeral.value { negative := true, whole := Text.ofNat n }) =
      .ok (.integer (-n)) := by
    have hsize : n < UInt64.size := Nat.lt_of_le_of_lt hn' (by decide)
    have hlt : ¬ 0x8000000000000000 < n := Nat.not_lt.mpr hn'
    simp [Numeral.value, appendDigits_ofNat hsize, hn, hlt]
  rw [scanNumber, readNumeral_ofNat true n hr]
  exact congrArg (fun v => (Scan.number v, rest)) hvalue

end Marginalia.Json
