import Marginalia.Proofs.Text.Trim
import Marginalia.Text.Utf8
import Mathlib.Tactic.SplitIfs

/-!
# A text comes back from its bytes

The bytes of a character are read as the character, whatever comes behind them
(`exists_step_encodeChar`), so decoding gives the encoded text back (`decodeLossy_encode`).

Below 128 a byte stands for the character of its number and for nothing else
(`mem_encodeChar_iff`). So bytes are taken apart at such a byte as the text is at its character
(`splitOn_encode`), and a text ends as its bytes end (`getLast?_encode_iff`).
-/

namespace Marginalia.Utf8

variable {n : Nat}

/-! ### Bytes as numbers -/

theorem toNat_ofNat_of_lt (h : n < 256) : (UInt8.ofNat n).toNat = n := by
  rw [UInt8.toNat_ofNat', Nat.mod_eq_of_lt h]

theorem ofNat_lt_iff (h : n < 256) (b : UInt8) : UInt8.ofNat n < b ↔ n < b.toNat := by
  rw [UInt8.lt_iff_toNat_lt, toNat_ofNat_of_lt h]

theorem ofNat_beq (h : n < 256) (b : UInt8) : (UInt8.ofNat n == b) = (n == b.toNat) := by
  rw [Bool.eq_iff_iff, beq_iff_eq, beq_iff_eq, ← UInt8.toNat_inj, toNat_ofNat_of_lt h]

/-! ### The first byte of a character -/

theorem shape?_one (h : n < 0x80) : shape? (UInt8.ofNat n) = some (1, 0, 0) := by
  rw [shape?, if_pos ((ofNat_lt_iff (by omega) _).mpr h)]

theorem shape?_two (h : 0xC2 ≤ n) (h' : n < 0xE0) :
    shape? (UInt8.ofNat n) = some (2, 0x80, 0xBF) := by
  simp only [shape?, ofNat_lt_iff (show n < 256 by omega), UInt8.reduceToNat]
  rw [if_neg (by omega), if_neg (by omega), if_pos (by omega)]

theorem shape?_three (h : 0xE0 ≤ n) (h' : n < 0xF0) :
    shape? (UInt8.ofNat n) =
      some (3, if n = 0xE0 then 0xA0 else 0x80, if n = 0xED then 0x9F else 0xBF) := by
  simp only [shape?, ofNat_lt_iff (show n < 256 by omega), ofNat_beq (show n < 256 by omega),
    UInt8.reduceToNat]
  grind

theorem shape?_four (h : 0xF0 ≤ n) (h' : n < 0xF5) :
    shape? (UInt8.ofNat n) =
      some (4, if n = 0xF0 then 0x90 else 0x80, if n = 0xF4 then 0x8F else 0xBF) := by
  simp only [shape?, ofNat_lt_iff (show n < 256 by omega), ofNat_beq (show n < 256 by omega),
    UInt8.reduceToNat]
  grind

/-! ### The bytes behind it -/

/-- The byte that carries the six lowest bits of `k`. -/
def following (k : Nat) : UInt8 := UInt8.ofNat (0x80 + k % 0x40)

theorem toNat_following (k : Nat) : (following k).toNat = 0x80 + k % 0x40 :=
  toNat_ofNat_of_lt (by omega)

theorem payload_following (k : Nat) : payload (following k) = k % 0x40 := by
  rw [payload, toNat_following]
  omega

theorem isContinuation_following (k : Nat) : isContinuation (following k) = true := by
  simp only [isContinuation, Bool.and_eq_true, decide_eq_true_eq, UInt8.le_iff_toNat_le,
    UInt8.lt_iff_toNat_lt, toNat_following, UInt8.reduceToNat]
  omega

section Step

variable {lead least greatest : UInt8} {i j k : Nat}

theorem following_within (h : least.toNat ≤ 0x80 + k % 0x40)
    (h' : 0x80 + k % 0x40 ≤ greatest.toNat) :
    (decide (following k < least) || decide (greatest < following k)) = false := by
  simp only [Bool.or_eq_false_iff, decide_eq_false_iff_not, UInt8.lt_iff_toNat_lt, toNat_following]
  omega

theorem step_two (hs : shape? lead = some (2, least, greatest))
    (h : least.toNat ≤ 0x80 + k % 0x40) (h' : 0x80 + k % 0x40 ≤ greatest.toNat) (rest : Bytes) :
    step lead (following k :: rest) =
      (some (Char.ofNat (lead.toNat % 0x20 * 0x40 + k % 0x40)), rest) := by
  simp only [step, hs, following_within h h', payload_following, Bool.false_eq_true, if_false,
    beq_self_eq_true, if_true]

theorem step_three (hs : shape? lead = some (3, least, greatest))
    (h : least.toNat ≤ 0x80 + j % 0x40) (h' : 0x80 + j % 0x40 ≤ greatest.toNat) (rest : Bytes) :
    step lead (following j :: following k :: rest) =
      (some (Char.ofNat (lead.toNat % 0x10 * 0x1000 + j % 0x40 * 0x40 + k % 0x40)), rest) := by
  simp only [step, hs, following_within h h', payload_following, isContinuation_following,
    Bool.false_eq_true, if_false, Bool.not_true, Nat.reduceBEq, if_true]

theorem step_four (hs : shape? lead = some (4, least, greatest))
    (h : least.toNat ≤ 0x80 + i % 0x40) (h' : 0x80 + i % 0x40 ≤ greatest.toNat) (rest : Bytes) :
    step lead (following i :: following j :: following k :: rest) =
      (some (Char.ofNat (lead.toNat % 8 * 0x40000 + i % 0x40 * 0x1000 + j % 0x40 * 0x40 +
        k % 0x40)), rest) := by
  simp only [step, hs, following_within h h', payload_following, isContinuation_following,
    Bool.false_eq_true, if_false, Bool.not_true, Nat.reduceBEq]

end Step

/-! ### Characters and texts -/

/-- The bytes of a character are read as the character. -/
theorem exists_step_encodeChar (c : Char) (rest : Bytes) :
    ∃ b more, encodeChar c = b :: more ∧ step b (more ++ rest) = (some c, rest) := by
  have hvalid : c.toNat < 0xD800 ∨ 0xDFFF < c.toNat ∧ c.toNat < 0x110000 := c.valid
  have hc : c = Char.ofNat c.toNat := (Char.ofNat_toNat c).symm
  unfold encodeChar
  generalize c.toNat = n at hvalid hc
  subst hc
  -- One case for each length of the code, as `encodeCode` tells them apart.
  unfold encodeCode
  split_ifs with h₁ h₂ h₃
  · refine ⟨_, _, rfl, ?_⟩
    simp only [step, shape?_one h₁, toNat_ofNat_of_lt (show n < 256 by omega)]
    rfl
  · have hlead := shape?_two (n := 0xC0 + n / 0x40) (by omega) (by omega)
    refine ⟨_, _, rfl, (step_two hlead (by simp) (by simp; omega) rest).trans ?_⟩
    rw [toNat_ofNat_of_lt (by omega)]
    congr 3
    omega
  · have hlead := shape?_three (n := 0xE0 + n / 0x1000) (by omega) (by omega)
    refine ⟨_, _, rfl, (step_three hlead ?_ ?_ rest).trans ?_⟩
    · split_ifs <;> simp only [UInt8.reduceToNat] <;> omega
    · split_ifs <;> simp only [UInt8.reduceToNat] <;> omega
    · rw [toNat_ofNat_of_lt (by omega)]
      congr 3
      omega
  · have hlead := shape?_four (n := 0xF0 + n / 0x40000) (by omega) (by omega)
    refine ⟨_, _, rfl, (step_four hlead ?_ ?_ rest).trans ?_⟩
    · split_ifs <;> simp only [UInt8.reduceToNat] <;> omega
    · split_ifs <;> simp only [UInt8.reduceToNat] <;> omega
    · rw [toNat_ofNat_of_lt (by omega)]
      congr 3
      omega

@[simp] theorem encode_nil : encode [] = [] := rfl

@[simp] theorem encode_cons (c : Char) (t : Text) : encode (c :: t) = encodeChar c ++ encode t :=
  List.flatMap_cons

@[simp] theorem encode_append (s t : Text) : encode (s ++ t) = encode s ++ encode t :=
  List.flatMap_append

theorem pieces_encode (t : Text) : pieces (encode t) = t.map some := by
  induction t with
  | nil => rw [encode_nil, pieces, List.map_nil]
  | cons c t ih =>
    obtain ⟨b, more, he, hs⟩ := exists_step_encodeChar c (encode t)
    rw [encode_cons, he, List.cons_append, pieces, hs, ih, List.map_cons]

/-- **Decoding** gives the encoded text back. -/
theorem decodeLossy_encode (t : Text) : decodeLossy (encode t) = t := by
  rw [decodeLossy, pieces_encode, List.map_map]
  exact List.map_id t

/-! ### Taking bytes apart -/

theorem encodeChar_ne_nil (c : Char) : encodeChar c ≠ [] := by
  obtain ⟨b, more, he, -⟩ := exists_step_encodeChar c []
  rw [he]
  exact List.cons_ne_nil _ _

theorem encode_eq_nil_iff {t : Text} : encode t = [] ↔ t = [] := by
  cases t with
  | nil => simp
  | cons c t => simp [encodeChar_ne_nil]

/-- A byte below 128 stands for the character of its number alone. -/
theorem mem_encodeChar_iff {c d : Char} (hd : d.toNat < 0x80) :
    UInt8.ofNat d.toNat ∈ encodeChar c ↔ c = d := by
  have hnat : ∀ m < 256, UInt8.ofNat d.toNat = UInt8.ofNat m ↔ m = d.toNat := fun m hm => by
    rw [← UInt8.toNat_inj, toNat_ofNat_of_lt (by omega), toNat_ofNat_of_lt hm, eq_comm]
  have hvalid : c.toNat < 0x110000 := by
    have : c.toNat < 0xD800 ∨ 0xDFFF < c.toNat ∧ c.toNat < 0x110000 := c.valid
    omega
  have hc : c = d ↔ c.toNat = d.toNat := ⟨congrArg _, fun h => Char.toNat_inj.mp h⟩
  rw [encodeChar, encodeCode, hc]
  split_ifs
  all_goals
    simp only [List.map_cons, List.map_nil, List.mem_cons, List.not_mem_nil, or_false]
    repeat rw [hnat _ (by omega)]
  all_goals omega

theorem encodeChar_of_lt {d : Char} (hd : d.toNat < 0x80) :
    encodeChar d = [UInt8.ofNat d.toNat] := by
  rw [encodeChar, encodeCode, if_pos hd, List.map_singleton]

theorem not_mem_encode {d : Char} (hd : d.toNat < 0x80) {t : Text} (ht : d ∉ t) :
    UInt8.ofNat d.toNat ∉ encode t := by
  intro hmem
  obtain ⟨c, hc, hb⟩ := List.mem_flatMap.mp hmem
  exact ht ((mem_encodeChar_iff hd).mp hb ▸ hc)

/-- Bytes are taken apart as the text is. -/
theorem splitOn_encode {d : Char} (hd : d.toNat < 0x80) (t : Text) :
    (encode t).splitOn (UInt8.ofNat d.toNat) = (t.splitOn d).map encode := by
  induction t using Text.piece_induction d with
  | last piece hp =>
    rw [List.splitOn_eq_singleton (not_mem_encode hd hp), List.splitOn_eq_singleton hp,
      List.map_singleton]
  | cons piece t hp ih =>
    rw [encode_append, encode_cons, encodeChar_of_lt hd, List.singleton_append,
      List.splitOn_append_cons_self_of_not_mem (not_mem_encode hd hp), ih,
      List.splitOn_append_cons_self_of_not_mem hp, List.map_cons]

/-- A text ends as its bytes end. -/
theorem getLast?_encode_iff {d : Char} (hd : d.toNat < 0x80) (t : Text) :
    (encode t).getLast? = some (UInt8.ofNat d.toNat) ↔ t.getLast? = some d := by
  rcases List.eq_nil_or_concat' t with rfl | ⟨init, c, rfl⟩
  · simp
  · rw [encode_append, encode_cons, encode_nil, List.append_nil,
      List.getLast?_append_of_ne_nil _ (encodeChar_ne_nil c), List.getLast?_concat,
      Option.some.injEq]
    refine ⟨fun h => (mem_encodeChar_iff hd).mp (List.mem_of_getLast? h), fun h => ?_⟩
    rw [h, encodeChar_of_lt hd, List.getLast?_singleton]

end Marginalia.Utf8
