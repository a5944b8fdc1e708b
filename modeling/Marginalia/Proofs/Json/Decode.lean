import Marginalia.Json.Decode
import Marginalia.Proofs.Json.Scan

/-!
# Decoding values that were written

A decoder *reads* a value as `a` when it gives `a` for the scan of the value, wherever there are
levels enough for the nesting of the value (`Decoder.Reads`). Decoders of lists read lists of what
their items read (`Decoder.reads_list`), and decoders of maps read objects whose keys are in order
(`Decoder.reads_map`).

Fields of a record are written in order, some of them left out. They *fill* a record when each that
is written puts its value into it and each that is left out is not needed (`Decoder.Fills`); then
the record is read from them (`Decoder.reads_record`). A field that is left out for its default is
as good as written (`Decoder.Fills.default`).

What is read from a value is read from its text as well (`Decoder.run_write`).
-/

namespace Marginalia.Json

/-! ### Nesting -/

mutual

/-- The number of lists and objects inside one another. -/
def Value.levels : Value → Nat
  | .list items => items.levels + 1
  | .object members => members.levels + 1
  | _ => 0

/-- The greatest number of levels of the items. -/
def Values.levels : Values → Nat
  | .nil => 0
  | .cons v rest => max v.levels rest.levels

/-- The greatest number of levels of the fields. -/
def Members.levels : Members → Nat
  | .nil => 0
  | .cons _ v rest => max v.levels rest.levels

end

theorem Members.levels_le_of_mem {ms : List (Text × Value)} {m : Text × Value} (hm : m ∈ ms) :
    m.2.levels ≤ (Members.ofList ms).levels := by
  induction ms with
  | nil => cases hm
  | cons m' ms ih =>
    rw [Members.ofList, Members.levels]
    rcases List.mem_cons.mp hm with rfl | hm
    · exact Nat.le_max_left _ _
    · exact Nat.le_trans (ih hm) (Nat.le_max_right _ _)

theorem Members.fits_ofList {ms : List (Text × Value)} (h : ∀ m ∈ ms, m.2.Fits) :
    (Members.ofList ms).Fits := by
  induction ms with
  | nil => trivial
  | cons m ms ih => exact ⟨h m List.mem_cons_self, ih fun m' hm => h m' (List.mem_cons_of_mem _ hm)⟩

theorem Values.fits_ofList {vs : List Value} (h : ∀ v ∈ vs, v.Fits) : (Values.ofList vs).Fits := by
  induction vs with
  | nil => trivial
  | cons v vs ih => exact ⟨h v List.mem_cons_self, ih fun v' hv => h v' (List.mem_cons_of_mem _ hv)⟩

theorem Value.fits_ofTexts (ts : List Text) : (Value.ofTexts ts).Fits := by
  refine Values.fits_ofList fun v hv => ?_
  obtain ⟨t, -, rfl⟩ := List.mem_map.mp hv
  trivial

theorem Value.levels_ofList_le {vs : List Value} {n : Nat} (h : ∀ v ∈ vs, v.levels ≤ n) :
    (Value.ofList vs).levels ≤ n + 1 := by
  refine Nat.succ_le_succ ?_
  induction vs with
  | nil => exact Nat.zero_le n
  | cons v vs ih =>
    rw [List.forall_mem_cons] at h
    exact Nat.max_le.mpr ⟨h.1, ih h.2⟩

theorem Value.levels_ofFields_le {ms : List (Text × Value)} {n : Nat}
    (h : ∀ m ∈ ms, m.2.levels ≤ n) : (Value.ofFields ms).levels ≤ n + 1 := by
  refine Nat.succ_le_succ ?_
  induction ms with
  | nil => exact Nat.zero_le n
  | cons m ms ih =>
    rw [List.forall_mem_cons] at h
    exact Nat.max_le.mpr ⟨h.1, ih h.2⟩

theorem Value.levels_ofTexts (ts : List Text) : (Value.ofTexts ts).levels = 1 := by
  refine Nat.le_antisymm (levels_ofList_le fun v hv => ?_) (Nat.succ_pos _)
  obtain ⟨t, -, rfl⟩ := List.mem_map.mp hv
  exact Nat.le_refl 0

namespace Decoder

variable {α σ : Type}

/-- The decoder reads the value as `a`, with levels enough. -/
def Reads (d : Decoder α) (v : Value) (a : α) : Prop :=
  ∀ depth, v.levels ≤ depth → d depth (Scan.ofValue v) = .ok a

/-! ### Simple values -/

theorem reads_textAs (expected : String) (t : Text) : Reads (textAs expected) (.string t) t :=
  fun _ _ => rfl

theorem reads_text (t : Text) : Reads text (.string t) t := reads_textAs _ t

theorem reads_bool (b : Bool) : Reads bool (.bool b) b := fun _ _ => rfl

theorem reads_int32 {i : Int} (hi : -0x80000000 ≤ i ∧ i < 0x80000000) :
    Reads int32 (.integer i) i := fun _ _ => if_pos ⟨hi.1, by omega⟩

theorem reads_nat64 {n : Nat} (hn : n < UInt64.size) : Reads nat64 (.integer n) n := by
  intro depth _
  have hfits : (0 : Int) ≤ n ∧ (n : Int) ≤ 0xFFFFFFFFFFFFFFFF := by
    rw [UInt64.size] at hn
    omega
  simp only [nat64, integer, Scan.ofValue, if_pos hfits]
  rfl

/-! ### Lists -/

/-- The decoder reads the items in order. -/
inductive ReadsAll (d : Decoder α) : Values → List α → Prop where
  | nil : ReadsAll d .nil []
  | cons {v : Value} {vs : Values} {a : α} {as : List α} (hv : Reads d v a)
      (hvs : ReadsAll d vs as) : ReadsAll d (.cons v vs) (a :: as)

variable {d : Decoder α} {vs : Values} {as : List α}

theorem ReadsAll.items_eq (h : ReadsAll d vs as) {depth : Nat} (hd : vs.levels ≤ depth) :
    items (d depth) (Items.ofValues vs) = .ok as := by
  induction h with
  | nil => rfl
  | cons hv _ ih =>
    rw [Values.levels] at hd
    rw [Items.ofValues, items, hv depth (by omega), ih (by omega)]
    rfl

theorem reads_list (h : ReadsAll d vs as) : Reads (list d) (.list vs) as := by
  intro depth hd
  obtain ⟨depth, rfl⟩ : ∃ k, depth = k + 1 := Nat.exists_eq_add_of_le' (Nat.lt_of_lt_of_le
    (Nat.succ_pos _) hd)
  exact h.items_eq (Nat.le_of_succ_le_succ hd)

theorem reads_ofList {d : Decoder α} {write : α → Value} {as : List α}
    (h : ∀ a ∈ as, Reads d (write a) a) : Reads (list d) (.ofList (as.map write)) as := by
  refine reads_list ?_
  induction as with
  | nil => exact .nil
  | cons a as ih =>
    rw [List.forall_mem_cons] at h
    exact .cons h.1 (ih h.2)

theorem reads_texts {d : Decoder Text} (h : ∀ t, Reads d (.string t) t) (ts : List Text) :
    Reads (list d) (.ofTexts ts) ts := reads_ofList fun t _ => h t

/-! ### Maps -/

section Map

variable {κ : Type} [DecidableEq κ] {key : Text → Except Error κ} {before : κ → κ → Bool}
  {ms : Members} {es : List (κ × α)} {k : κ} {a : α}

/-- An entry whose key comes behind all others goes to the end. -/
theorem putSorted_of_last (h : ∀ e ∈ es, e.1 ≠ k ∧ before k e.1 = false) :
    putSorted before k a es = es ++ [(k, a)] := by
  induction es with
  | nil => rfl
  | cons e es ih =>
    rw [List.forall_mem_cons] at h
    obtain ⟨⟨hne, hbefore⟩, h⟩ := h
    rw [putSorted, if_neg hne, hbefore, if_neg Bool.false_ne_true, ih h, List.cons_append]

/-- The decoder reads the fields in order, each under its key. -/
inductive ReadsEntries (key : Text → Except Error κ) (d : Decoder α) :
    Members → List (κ × α) → Prop where
  | nil : ReadsEntries key d .nil []
  | cons {name : Text} {v : Value} {ms : Members} {k : κ} {a : α} {es : List (κ × α)}
      (hk : key name = .ok k) (hv : Reads d v a) (hms : ReadsEntries key d ms es) :
      ReadsEntries key d (.cons name v ms) ((k, a) :: es)

/-- The keys of the entries are in order. -/
def SortedBy (before : κ → κ → Bool) (es : List (κ × α)) : Prop :=
  es.Pairwise fun e e' => e.1 ≠ e'.1 ∧ before e'.1 e.1 = false

/-- Behind entries that have been taken, further ones are put at the end. -/
theorem ReadsEntries.fields_eq (h : ReadsEntries key d ms es) {depth : Nat}
    (hd : ms.levels ≤ depth) (taken : List (κ × α)) (hs : SortedBy before (taken ++ es)) :
    fields (fun entries name s =>
        match key name with
        | .error e => .error e
        | .ok k => (d depth s).map fun a => putSorted before k a entries)
      taken (Fields.ofMembers ms) = .ok (taken ++ es) := by
  induction h generalizing taken with
  | nil =>
    rw [List.append_nil]
    rfl
  | @cons name v ms k a es hk hv _ ih =>
    rw [Members.levels] at hd
    have hlast : putSorted before k a taken = taken ++ [(k, a)] := by
      refine putSorted_of_last fun e he => ?_
      exact (List.pairwise_append.mp hs).2.2 e he (k, a) List.mem_cons_self
    have hrest : taken ++ (k, a) :: es = taken ++ [(k, a)] ++ es := by
      rw [List.append_assoc, List.singleton_append]
    rw [hrest] at hs ⊢
    rw [Fields.ofMembers, fields]
    simp only [hk, hv depth (by omega), Except.map, hlast]
    exact ih (by omega) _ hs

/-- **Maps** are read from fields whose keys are in order. -/
theorem reads_map (h : ReadsEntries key d ms es) (hs : SortedBy before es) :
    Reads (map key before d) (.object ms) es := by
  intro depth hd
  obtain ⟨depth, rfl⟩ : ∃ k, depth = k + 1 := Nat.exists_eq_add_of_le' (Nat.lt_of_lt_of_le
    (Nat.succ_pos _) hd)
  exact h.fields_eq (Nat.le_of_succ_le_succ hd) [] hs

end Map

/-! ### Variants -/

/-- A variant is read from the object with its name as the only key. -/
theorem reads_variant {known : List (Text × Decoder α)} {name : Text} {v : Value} {a : α}
    (hname : known.lookup name = some d) (hv : Reads d v a) :
    Reads (variant known) (.ofFields [(name, v)]) a := by
  intro depth hd
  obtain ⟨depth, rfl⟩ : ∃ k, depth = k + 1 := Nat.exists_eq_add_of_le' (Nat.lt_of_lt_of_le
    (Nat.succ_pos _) hd)
  have hlevels : v.levels ≤ depth :=
    (Members.levels_le_of_mem (List.mem_singleton_self (name, v))).trans
      (Nat.le_of_succ_le_succ hd)
  show variant known (depth + 1) (.object (.field (.ok name) (Scan.ofValue v) (.stop .close))) = _
  simp only [variant, hname, hv depth hlevels]

/-! ### Records -/

/-- The fields `ms` take a record of the fields `known` from one state to another. -/
inductive Fills : List (Field σ) → List (Text × Value) → σ → σ → Prop where
  | nil {s : σ} : Fills [] [] s s
  /-- A field that may be left out is left out. -/
  | skip {f : Field σ} {known : List (Field σ)} {ms : List (Text × Value)} {s r : σ}
      (hf : f.needed = false) (h : Fills known ms s r) : Fills (f :: known) ms s r
  /-- A field is written and put into the record. -/
  | take {f : Field σ} {known : List (Field σ)} {v : Value} {put : σ → σ}
      {ms : List (Text × Value)} {s r : σ} (hv : Reads f.read v put)
      (h : Fills known ms (put s) r) : Fills (f :: known) ((f.name, v) :: ms) s r

theorem find?_name {known : List (Field σ)} (hnames : (known.map Field.name).Nodup) {f : Field σ}
    (hf : f ∈ known) : known.find? (fun g => g.name == f.name) = some f := by
  induction known with
  | nil => cases hf
  | cons g known ih =>
    rw [List.map_cons, List.nodup_cons] at hnames
    rcases List.mem_cons.mp hf with rfl | hf
    · exact List.find?_cons_of_pos (beq_self_eq_true f.name)
    · have hne : g.name ≠ f.name := fun he => hnames.1 (he ▸ List.mem_map_of_mem hf)
      rw [List.find?_cons_of_neg (by simpa using hne), ih hnames.2 hf]

/-- Fields that fill a record are taken into it, and the needed ones have been seen. -/
theorem Fills.exists_fields_eq {all known : List (Field σ)} {ms : List (Text × Value)} {s r : σ}
    (h : Fills known ms s r) (hall : (all.map Field.name).Nodup) (hsub : known.Sublist all)
    {depth : Nat} (hd : (Members.ofList ms).levels ≤ depth) (seen : List Text)
    (hseen : ∀ f ∈ known, f.name ∉ seen) :
    ∃ seen', fields (takeField all depth) (s, seen) (Fields.ofMembers (.ofList ms)) =
        .ok (r, seen') ∧ (∀ name ∈ seen, name ∈ seen') ∧
      ∀ f ∈ known, f.needed = true → f.name ∈ seen' := by
  induction h generalizing seen with
  | nil => exact ⟨seen, rfl, fun _ hname => hname, fun _ hf => absurd hf List.not_mem_nil⟩
  | @skip f known ms s r hf _ ih =>
    obtain ⟨seen', he, hkeep, hneeded⟩ := ih ((List.sublist_cons_self f known).trans hsub) hd seen
      fun g hg => hseen g (List.mem_cons_of_mem _ hg)
    refine ⟨seen', he, hkeep, fun g hg hn => ?_⟩
    rcases List.mem_cons.mp hg with rfl | hg
    · rw [hf] at hn
      cases hn
    · exact hneeded g hg hn
  | @take f known v put ms s r hv _ ih =>
    have hnodup : ((f :: known).map Field.name).Nodup := hall.sublist (hsub.map _)
    rw [List.map_cons, List.nodup_cons] at hnodup
    rw [Members.ofList, Members.levels] at hd
    obtain ⟨seen', he, hkeep, hneeded⟩ := ih ((List.sublist_cons_self f known).trans hsub)
      (by omega) (f.name :: seen) fun g hg hmem => by
        rcases List.mem_cons.mp hmem with hname | hmem
        · exact hnodup.1 (hname ▸ List.mem_map_of_mem hg)
        · exact hseen g (List.mem_cons_of_mem _ hg) hmem
    refine ⟨seen', ?_, fun name hname => hkeep name (List.mem_cons_of_mem _ hname),
      fun g hg hn => ?_⟩
    · have hfind := find?_name hall (hsub.subset List.mem_cons_self)
      have hnew : seen.contains f.name = false := by
        simpa using hseen f List.mem_cons_self
      rw [Members.ofList, Fields.ofMembers, fields]
      simp only [takeField, hfind, hnew, hv depth (by omega), Bool.false_eq_true, if_false]
      exact he
    · rcases List.mem_cons.mp hg with rfl | hg
      · exact hkeep _ List.mem_cons_self
      · exact hneeded g hg hn

/-- **Records** are read from fields that fill them. -/
theorem reads_record {name : String} {known : List (Field σ)} {ms : List (Text × Value)}
    {empty r : σ} (hnames : (known.map Field.name).Nodup) (h : Fills known ms empty r) :
    Reads (record name known empty) (.ofFields ms) r := by
  intro depth hd
  obtain ⟨depth, rfl⟩ : ∃ k, depth = k + 1 := Nat.exists_eq_add_of_le' (Nat.lt_of_lt_of_le
    (Nat.succ_pos _) hd)
  obtain ⟨seen, he, -, hneeded⟩ := h.exists_fields_eq hnames (List.Sublist.refl _)
    (Nat.le_of_succ_le_succ hd) [] fun _ _ => List.not_mem_nil
  have hmissing : known.find? (fun f => f.needed && !seen.contains f.name) = none := by
    rw [List.find?_eq_none]
    intro f hf hn
    rw [Bool.and_eq_true, Bool.not_eq_true'] at hn
    have := hneeded f hf hn.1
    rw [← List.contains_iff_mem, hn.2] at this
    cases this
  show recordOfFields known empty depth (Fields.ofMembers (.ofList ms)) = .ok r
  rw [recordOfFields, he]
  simp only [hmissing]

namespace Fills

variable {known : List (Field σ)} {ms : List (Text × Value)} {s r : σ} {name : String}
  {d : Decoder α} {put : α → σ → σ} {v : Value} {a : α} {p : Prop} [Decidable p]

theorem reads_field (name : String) (hv : Reads d v a) :
    Reads (Field.optional name d put).read v (put a) := by
  intro depth hd
  simp only [Field.optional, hv depth hd]
  rfl

theorem optional (hv : Reads d v a) (h : Fills known ms (put a s) r) :
    Fills (.optional name d put :: known) ((name.toList, v) :: ms) s r :=
  .take (f := .optional name d put) (reads_field name hv) h

theorem required (hv : Reads d v a) (h : Fills known ms (put a s) r) :
    Fills (.required name d put :: known) ((name.toList, v) :: ms) s r :=
  .take (f := .required name d put) (reads_field name hv) h

/-- A field that is left out for its default is as good as written. -/
theorem default {a₀ : α} (hv : ¬ p → Reads d v a) (hp : p → a = a₀) (hput : put a₀ s = s)
    (h : Fills known ms (put a s) r) :
    Fills (.optional name d put :: known) ((if p then [] else [(name.toList, v)]) ++ ms) s r := by
  split_ifs with hleft
  · rw [hp hleft, hput] at h
    exact .skip rfl h
  · exact optional (hv hleft) h

end Fills

/-! ### Texts -/

/-- **Decoding** the text of a value gives what the decoder reads. -/
theorem run_write {d : Decoder α} {v : Value} {a : α} {l : Layout} (hl : l.Spaced) (hv : v.Fits)
    (hlevels : v.levels ≤ depthLimit) (h : Reads d v a) : run d (v.write l) = .ok a := by
  rw [run, scan_write hl hv]
  simp only [h depthLimit hlevels, if_true]

end Decoder

end Marginalia.Json
