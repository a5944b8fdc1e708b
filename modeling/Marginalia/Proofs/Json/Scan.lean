import Marginalia.Json.Value
import Marginalia.Proofs.Json.Number
import Marginalia.Proofs.Json.Quote

/-!
# Values that were written

The text of a value is scanned as the value, in any layout that indents by white space
(`scan_write`). Integers must fit 64 bits, as others would be read as doubles (`Value.Fits`).

The scan takes steps; how many it takes for a value is counted by `Value.steps`, which is bounded by
the length of the text (`Value.steps_le`).
-/

namespace Marginalia.Json

/-! ### Values that fit -/

mutual

/-- Every integer in the value fits 64 bits, with a sign or without one. -/
def Value.Fits : Value → Prop
  | .integer i => -0x8000000000000000 ≤ i ∧ i < 0x10000000000000000
  | .list items => items.Fits
  | .object members => members.Fits
  | _ => True

/-- Every integer in the items fits. -/
def Values.Fits : Values → Prop
  | .nil => True
  | .cons v rest => v.Fits ∧ rest.Fits

/-- Every integer in the fields fits. -/
def Members.Fits : Members → Prop
  | .nil => True
  | .cons _ v rest => v.Fits ∧ rest.Fits

end

mutual

/-- The number of steps for a value. -/
def Value.steps : Value → Nat
  | .list items => items.steps + 1
  | .object members => members.steps + 1
  | _ => 1

/-- The number of steps for items. -/
def Values.steps : Values → Nat
  | .nil => 1
  | .cons v rest => max v.steps rest.steps + 1

/-- The number of steps for fields; each takes one for its key. -/
def Members.steps : Members → Nat
  | .nil => 1
  | .cons _ v rest => max v.steps rest.steps + 2

end

/-! ### White space -/

variable {l : Layout} {c : Char} {t rest rest' : Text} {depth n : Nat}

/-- The layout indents by white space. -/
def Layout.Spaced (l : Layout) : Prop := ∀ depth, ∀ c ∈ l.lineBreak depth, isSpace c = true

theorem Layout.spaced_compact : Layout.compact.Spaced := fun _ _ hc => absurd hc List.not_mem_nil

theorem Layout.spaced_indented {unit : Text} (h : ∀ c ∈ unit, isSpace c = true) :
    (Layout.indented unit).Spaced := by
  intro depth c hc
  rcases List.mem_cons.mp hc with rfl | hc
  · rfl
  · obtain ⟨piece, hp, hc⟩ := List.mem_flatten.mp hc
    exact h c (List.eq_of_mem_replicate hp ▸ hc)

/-- The three layouts in which files are written indent by white space. -/
theorem Layout.spaced_of_mem (hl : l ∈ [Layout.compact, .spaces, .tabs]) : l.Spaced := by
  simp only [List.mem_cons, List.not_mem_nil, or_false] at hl
  rcases hl with rfl | rfl | rfl
  · exact spaced_compact
  · exact spaced_indented (by simp [isSpace])
  · exact spaced_indented (by simp [isSpace])

theorem skipSpace_append {s : Text} (hs : ∀ c ∈ s, isSpace c = true) (t : Text) :
    skipSpace (s ++ t) = skipSpace t := List.dropWhile_append_of_pos hs

theorem skipSpace_cons (hc : isSpace c = false) (t : Text) : skipSpace (c :: t) = c :: t :=
  List.dropWhile_cons_of_neg (by simp [hc])

theorem skipSpace_lineBreak (hl : l.Spaced) (depth : Nat) (hc : isSpace c = false) (t : Text) :
    skipSpace (l.lineBreak depth ++ c :: t) = c :: t := by
  rw [skipSpace_append (hl depth), skipSpace_cons hc]

theorem scanValue_append {s : Text} (hs : ∀ c ∈ s, isSpace c = true) (n : Nat) (t : Text) :
    scanValue n (s ++ t) = scanValue n t := by
  cases n with
  | zero => rfl
  | succ n => rw [scanValue, scanValue, skipSpace_append hs]

/-- A number ends before a line break. -/
theorem endsNumber_lineBreak (hl : l.Spaced) (depth : Nat) (h : EndsNumber (c :: t)) :
    EndsNumber (l.lineBreak depth ++ c :: t) := by
  intro d hd
  cases hb : l.lineBreak depth with
  | nil =>
    rw [hb] at hd
    exact h d hd
  | cons e s =>
    rw [hb] at hd
    cases hd
    have hspace := hl depth d (hb ▸ List.mem_cons_self)
    simp only [isSpace, Bool.or_eq_true, beq_iff_eq] at hspace
    rcases hspace with ((rfl | rfl) | rfl) | rfl <;> rfl

/-! ### Single steps -/

/-- The text starts with something other than white space and a closing bracket. -/
def StartsItem (t : Text) : Prop := ∃ c more, t = c :: more ∧ isSpace c = false ∧ c ≠ ']'

section Steps

variable {s : Scan} {is : Items} {fs : Fields}

theorem scanItems_close (hl : l.Spaced) (depth n : Nat) (first : Bool) (rest : Text) :
    scanItems (n + 1) first (l.lineBreak depth ++ ']' :: rest) = (.stop .close, rest) := by
  rw [scanItems, skipSpace_lineBreak hl depth (by decide)]
  rfl

theorem scanItems_first (hl : l.Spaced) (depth : Nat) (ht : StartsItem t)
    (hv : scanValue n t = (s, rest)) (hi : scanItems n false rest = (is, rest')) :
    scanItems (n + 1) true (l.lineBreak depth ++ t) = (.item s is, rest') := by
  obtain ⟨c, more, rfl, hc, hb⟩ := ht
  rw [scanItems, skipSpace_lineBreak hl depth hc]
  simp only [beq_eq_false_iff_ne.mpr hb, Bool.false_eq_true, if_false, if_true, hv, hi]

theorem scanItems_next (hl : l.Spaced) (depth : Nat) (ht : StartsItem t)
    (hv : scanValue n t = (s, rest)) (hi : scanItems n false rest = (is, rest')) :
    scanItems (n + 1) false (',' :: (l.lineBreak depth ++ t)) = (.item s is, rest') := by
  obtain ⟨c, more, rfl, hc, hb⟩ := ht
  rw [scanItems, skipSpace_cons (by decide)]
  simp only [skipSpace_lineBreak hl depth hc, beq_eq_false_iff_ne.mpr hb, Char.reduceBEq,
    Bool.false_eq_true, if_false, if_true, hv, hi]

theorem scanFields_close (hl : l.Spaced) (depth n : Nat) (first : Bool) (rest : Text) :
    scanFields (n + 1) first (l.lineBreak depth ++ '}' :: rest) = (.stop .close, rest) := by
  rw [scanFields, skipSpace_lineBreak hl depth (by decide)]
  rfl

theorem scanFields_first (hl : l.Spaced) (depth n : Nat) (t : Text) :
    scanFields (n + 1) true (l.lineBreak depth ++ '"' :: t) = scanField n ('"' :: t) := by
  rw [scanFields, skipSpace_lineBreak hl depth (by decide)]
  rfl

theorem scanFields_next (hl : l.Spaced) (depth n : Nat) (t : Text) :
    scanFields (n + 1) false (',' :: (l.lineBreak depth ++ '"' :: t)) = scanField n ('"' :: t) := by
  rw [scanFields, skipSpace_cons (by decide)]
  simp only [skipSpace_lineBreak hl depth (show isSpace '"' = false by decide), Char.reduceBEq,
    Bool.false_eq_true, if_false, if_true]

theorem scanField_colon (l : Layout) (key : Text) (hv : scanValue n t = (s, rest))
    (hf : scanFields n false rest = (fs, rest')) :
    scanField (n + 1) ('"' :: (key.flatMap quoteChar ++ '"' :: (l.colon ++ t))) =
      (.field (.ok key) s fs, rest') := by
  obtain ⟨space, hs, hcolon⟩ : ∃ space : Text, (∀ c ∈ space, isSpace c = true) ∧
      l.colon = ':' :: space := by
    cases l with
    | compact => exact ⟨[], by simp, rfl⟩
    | indented unit => exact ⟨[' '], by simp [isSpace], rfl⟩
  rw [scanField, stringToken_quote, hcolon]
  simp only [List.cons_append, skipSpace_cons (show isSpace ':' = false by decide),
    scanValue_append hs, hv, hf]

end Steps

/-! ### Where a value starts -/

theorem ne_of_isDigit {d : Char} (hc : c.isDigit = true) (hd : d.isDigit = false) : c ≠ d := by
  rintro rfl
  rw [hc] at hd
  cases hd

theorem isSpace_of_isDigit (hc : c.isDigit = true) : isSpace c = false := by
  simp only [isSpace, Bool.or_eq_false_iff, beq_eq_false_iff_ne]
  exact ⟨⟨⟨ne_of_isDigit hc rfl, ne_of_isDigit hc rfl⟩, ne_of_isDigit hc rfl⟩, ne_of_isDigit hc rfl⟩

theorem Value.startsItem_writeAt (l : Layout) (depth : Nat) (v : Value) (rest : Text) :
    StartsItem (v.writeAt l depth ++ rest) := by
  cases v with
  | null => exact ⟨_, _, rfl, by decide, by decide⟩
  | bool b => cases b <;> exact ⟨_, _, rfl, by decide, by decide⟩
  | integer i =>
    cases i with
    | ofNat n =>
      obtain ⟨c, ds, hds, hc⟩ := exists_ofNat_eq_cons n
      refine ⟨c, ds ++ rest, ?_, isSpace_of_isDigit hc, ne_of_isDigit hc rfl⟩
      rw [writeAt, Text.ofInt, hds, List.cons_append]
    | negSucc n => exact ⟨_, _, rfl, by decide, by decide⟩
  | string t => exact ⟨_, _, rfl, by decide, by decide⟩
  | list items => cases items <;> exact ⟨_, _, rfl, by decide, by decide⟩
  | object members => cases members <;> exact ⟨_, _, rfl, by decide, by decide⟩

theorem Value.length_writeAt_pos (l : Layout) (depth : Nat) (v : Value) :
    0 < (v.writeAt l depth).length := by
  obtain ⟨c, more, he, -, -⟩ := v.startsItem_writeAt l depth []
  rw [List.append_nil] at he
  rw [he]
  exact Nat.succ_pos _

/-! ### Words and numbers -/

theorem scanValue_bool (b : Bool) (n : Nat) (rest : Text) :
    scanValue (n + 1) ((Value.bool b).writeAt l depth ++ rest) = (.bool b, rest) := by
  cases b <;> rfl

theorem scanValue_string (t : Text) (n : Nat) (rest : Text) :
    scanValue (n + 1) (quote t ++ rest) = (.string (.ok t), rest) := by
  rw [quote, List.append_assoc, scanValue, List.cons_append, skipSpace_cons (by decide)]
  simp only [Char.reduceBEq, Bool.false_eq_true, if_false, if_true, scanString,
    List.singleton_append, stringToken_quote, show '"'.isDigit = false by decide]

theorem scanValue_integer {i : Int} (hi : (Value.integer i).Fits) (n : Nat)
    (hr : EndsNumber rest) :
    scanValue (n + 1) (Text.ofInt i ++ rest) = (.number (.ok (.integer i)), rest) := by
  obtain ⟨hleast, hgreatest⟩ := hi
  cases i with
  | ofNat m =>
    have hm : m < UInt64.size := by
      simp only [Int.ofNat_eq_natCast, UInt64.size] at hgreatest ⊢
      omega
    obtain ⟨c, ds, hds, hc⟩ := exists_ofNat_eq_cons m
    have hne : ∀ d : Char, d.isDigit = false → (c == d) = false := fun d hd =>
      beq_eq_false_iff_ne.mpr (ne_of_isDigit hc hd)
    have hnumber := scanNumber_ofNat hm hr
    rw [Text.ofInt, scanValue]
    rw [hds, List.cons_append] at hnumber ⊢
    simp only [skipSpace_cons (isSpace_of_isDigit hc), hne 'n' rfl, hne 't' rfl, hne 'f' rfl,
      hne '-' rfl, hc, Bool.false_eq_true, if_false, if_true, hnumber]
    rfl
  | negSucc m =>
    have hm : m + 1 ≤ 0x8000000000000000 := by
      simp only [Int.negSucc_eq] at hleast
      omega
    rw [Text.ofInt, List.cons_append, scanValue, skipSpace_cons (by decide)]
    simp only [Char.reduceBEq, Bool.false_eq_true, if_false, if_true,
      scanNumber_neg (Nat.succ_ne_zero m) hm hr]
    rfl

/-! ### Lists and objects -/

theorem scanValue_list {is : Items} (h : scanItems n true t = (is, rest)) :
    scanValue (n + 1) ('[' :: t) = (.list is, rest) := by
  rw [scanValue, skipSpace_cons (by decide)]
  simp only [Char.reduceBEq, Bool.false_eq_true, if_false, if_true, h,
    show '['.isDigit = false by decide]

theorem scanValue_object {fs : Fields} (h : scanFields n true t = (fs, rest)) :
    scanValue (n + 1) ('{' :: t) = (.object fs, rest) := by
  rw [scanValue, skipSpace_cons (by decide)]
  simp only [Char.reduceBEq, Bool.false_eq_true, if_false, if_true, h,
    show '{'.isDigit = false by decide]

theorem Values.endsNumber_writeRest (hl : l.Spaced) (vs : Values) (depth depth' : Nat)
    (rest : Text) : EndsNumber (vs.writeRest l depth ++ (l.lineBreak depth' ++ ']' :: rest)) := by
  cases vs with
  | nil => exact endsNumber_lineBreak hl depth' fun _ hc => by cases hc; rfl
  | cons => exact fun _ hc => by cases hc; rfl

theorem Members.endsNumber_writeRest (hl : l.Spaced) (ms : Members) (depth depth' : Nat)
    (rest : Text) :
    EndsNumber (ms.writeRest l depth ++ (l.lineBreak depth' ++ '}' :: rest)) := by
  cases ms with
  | nil => exact endsNumber_lineBreak hl depth' fun _ hc => by cases hc; rfl
  | cons => exact fun _ hc => by cases hc; rfl

mutual

/-- The text of a value is scanned as the value. -/
theorem scanValue_writeAt (hl : l.Spaced) : ∀ (v : Value) (depth n : Nat) (rest : Text), v.Fits →
    v.steps ≤ n → EndsNumber rest →
      scanValue n (v.writeAt l depth ++ rest) = (Scan.ofValue v, rest)
  | .null, _, n + 1, _, _, _, _ => rfl
  | .bool b, _, n + 1, rest, _, _, _ => scanValue_bool b n rest
  | .integer i, _, n + 1, rest, hv, _, hr => scanValue_integer hv n hr
  | .string t, _, n + 1, rest, _, _, _ => scanValue_string t n rest
  | .list .nil, _, n + 2, rest, _, _, _ => rfl
  | .list (.cons v vs), depth, n + 2, rest, hv, hn, _ => by
    simp only [Value.steps, Values.steps] at hn
    have hitem := scanValue_writeAt hl v (depth + 1) n _ hv.1 (by omega)
      (vs.endsNumber_writeRest hl (depth + 1) depth rest)
    have hrest := scanItems_writeRest hl vs (depth + 1) depth n rest hv.2 (by omega)
    have hitems := scanItems_first hl (depth + 1) (v.startsItem_writeAt l (depth + 1) _) hitem hrest
    simp only [Value.writeAt, List.cons_append, List.append_assoc, List.nil_append]
    exact scanValue_list hitems
  | .object .nil, _, n + 2, rest, _, _, _ => rfl
  | .object (.cons key v ms), depth, n + 3, rest, hv, hn, _ => by
    simp only [Value.steps, Members.steps] at hn
    have hvalue := scanValue_writeAt hl v (depth + 1) n _ hv.1 (by omega)
      (ms.endsNumber_writeRest hl (depth + 1) depth rest)
    have hrest := scanFields_writeRest hl ms (depth + 1) depth n rest hv.2 (by omega)
    have hfield := scanField_colon l key hvalue hrest
    simp only [Value.writeAt, quote, List.cons_append, List.append_assoc, List.nil_append]
    refine scanValue_object ?_
    rw [scanFields_first hl, hfield]
    rfl

theorem scanItems_writeRest (hl : l.Spaced) : ∀ (vs : Values) (depth depth' n : Nat) (rest : Text),
    vs.Fits → vs.steps ≤ n →
      scanItems n false (vs.writeRest l depth ++ (l.lineBreak depth' ++ ']' :: rest)) =
        (Items.ofValues vs, rest)
  | .nil, _, depth', n + 1, rest, _, _ => scanItems_close hl depth' n false rest
  | .cons v vs, depth, depth', n + 1, rest, hv, hn => by
    simp only [Values.steps] at hn
    have hitem := scanValue_writeAt hl v depth n _ hv.1 (by omega)
      (vs.endsNumber_writeRest hl depth depth' rest)
    have hrest := scanItems_writeRest hl vs depth depth' n rest hv.2 (by omega)
    simp only [Values.writeRest, List.cons_append, List.append_assoc]
    exact scanItems_next hl depth (v.startsItem_writeAt l depth _) hitem hrest

theorem scanFields_writeRest (hl : l.Spaced) : ∀ (ms : Members) (depth depth' n : Nat)
    (rest : Text), ms.Fits → ms.steps ≤ n →
      scanFields n false (ms.writeRest l depth ++ (l.lineBreak depth' ++ '}' :: rest)) =
        (Fields.ofMembers ms, rest)
  | .nil, _, depth', n + 1, rest, _, _ => scanFields_close hl depth' n false rest
  | .cons key v ms, depth, depth', n + 2, rest, hv, hn => by
    simp only [Members.steps] at hn
    have hvalue := scanValue_writeAt hl v depth n _ hv.1 (by omega)
      (ms.endsNumber_writeRest hl depth depth' rest)
    have hrest := scanFields_writeRest hl ms depth depth' n rest hv.2 (by omega)
    have hfield := scanField_colon l key hvalue hrest
    simp only [Members.writeRest, quote, List.cons_append, List.append_assoc, List.nil_append]
    rw [scanFields_next hl, hfield]
    rfl

end

/-! ### The number of steps -/

mutual

theorem Value.steps_le (l : Layout) : ∀ (v : Value) (depth : Nat),
    v.steps ≤ 2 * (v.writeAt l depth).length
  | .null, depth | .bool _, depth | .integer _, depth | .string _, depth =>
    Nat.mul_pos Nat.two_pos (Value.length_writeAt_pos l depth _)
  | .list .nil, _ => by simp [Value.steps, Values.steps, Value.writeAt]
  | .list (.cons v vs), depth => by
    have hv := v.steps_le l (depth + 1)
    have hvs := vs.steps_le l (depth + 1)
    simp only [Value.steps, Values.steps, Value.writeAt, List.length_cons, List.length_append]
    omega
  | .object .nil, _ => by simp [Value.steps, Members.steps, Value.writeAt]
  | .object (.cons key v ms), depth => by
    have hv := v.steps_le l (depth + 1)
    have hms := ms.steps_le l (depth + 1)
    simp only [Value.steps, Members.steps, Value.writeAt, quote, List.length_cons,
      List.length_append]
    omega

theorem Values.steps_le (l : Layout) : ∀ (vs : Values) (depth : Nat),
    vs.steps ≤ 2 * (vs.writeRest l depth).length + 1
  | .nil, _ => Nat.le_refl 1
  | .cons v vs, depth => by
    have hv := v.steps_le l depth
    have hvs := vs.steps_le l depth
    simp only [Values.steps, Values.writeRest, List.length_cons, List.length_append]
    omega

theorem Members.steps_le (l : Layout) : ∀ (ms : Members) (depth : Nat),
    ms.steps ≤ 2 * (ms.writeRest l depth).length + 1
  | .nil, _ => Nat.le_refl 1
  | .cons key v ms, depth => by
    have hv := v.steps_le l depth
    have hms := ms.steps_le l depth
    simp only [Members.steps, Members.writeRest, quote, List.length_cons, List.length_append]
    omega

end

/-- **Scanning** the text of a value gives the value and leaves nothing over. -/
theorem scan_write (hl : l.Spaced) {v : Value} (hv : v.Fits) :
    scan (v.write l) = (Scan.ofValue v, true) := by
  have hsteps := v.steps_le l 0
  have h := scanValue_writeAt hl v 0 (3 * (v.writeAt l 0).length + 3) [] hv (by omega)
    fun _ hc => by cases hc
  rw [List.append_nil] at h
  rw [scan, Value.write, h]
  rfl

end Marginalia.Json
