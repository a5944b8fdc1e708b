import Marginalia.Proofs.FileStore.Making
import Marginalia.Proofs.FileStore.Visits
import Marginalia.Proofs.Run.Emission

/-!
# What emitting a file does

What comes of emitting a file is told by a *deed*: the directories that are there afterwards and the
file that was written (`Deed`). The deed and the outcome depend on little of the store: on the file
that is read and on what kind of things its path passes, on what is at the place of the document,
and on what is above it, where a directory that is there and none at all are the same
(`Surroundings`). In all stores that are the same in these respects the deed is the same
(`exists_deed_emit`).

When a file fails, no new directories are among its deed (`Deed.Fits`), unless a name or the path of
its document is too long (`TooLong`) and a directory could be made before that was found
(`MissesDirectory`).
-/

namespace Marginalia.FileStore

variable {s s' : FileStore} {l b t : Location} {p q : Path} {ns : List Text} {n : Text}
  {v : Json.Value} {α : Type}

/-! ### Deeds -/

/-- What is left by emitting a file. -/
structure Deed where
  /-- The directories that are there afterwards. -/
  directories : List Location := []
  /-- The file that was written. -/
  file : Option (Location × Utf8.Bytes) := none

/-- Nothing has happened at the place of a path, and nothing above it but that directories were
made. -/
structure Undisturbed (s s' : FileStore) (p : Path) : Prop where
  here : s'.here = s.here
  place : s'.get? (p.place s.here) = s.get? (p.place s.here)
  above : ∀ l, l <+: p.place s.here → l ≠ p.place s.here → Kept s s' l

/-- The path has too many bytes, or a name on the way to its place has. -/
def TooLong (s : FileStore) (p : Path) : Prop :=
  pathLimit < byteCount p ∨ ∃ m ∈ p.place s.here, nameLimit < byteCount m

/-- A directory above the place of a path is missing, and neither the path above the last name nor a
name on the way to that directory is too long for it to be made. -/
def MissesDirectory (s : FileStore) (p : Path) : Prop :=
  byteCount ((Path.parent? p).getD []) ≤ pathLimit ∧
    ∃ l, l <+: p.place s.here ∧ l ≠ p.place s.here ∧ s.get? l = none ∧
      ∀ m ∈ l, byteCount m ≤ nameLimit

namespace Deed

variable {d : Deed} {i : Item} {r : Except Failure α}

/-- What the deed puts at a location. -/
def laid (d : Deed) (l : Location) : Option Item :=
  if d.directories.contains l then some .directory
  else (d.file.filter fun e => e.1 == l).map fun e => .file e.2

/-- What the deed puts is there, and otherwise nothing has changed. -/
structure Done (d : Deed) (s s' : FileStore) : Prop where
  here : s'.here = s.here
  item : ∀ l, s'.get? l = (d.laid l).or (s.get? l)

/-- The deed is one of writing a document with the given result. -/
structure Fits (d : Deed) (s : FileStore) (p : Path) (r : Except Failure α) : Prop where
  /-- All directories are above the document, and there was no file in their place. -/
  directories : ∀ l ∈ d.directories, (l <+: p.place s.here ∧ l ≠ p.place s.here) ∧
    (s.get? l = none ∨ s.get? l = some .directory)
  /-- Whatever is put is in a directory that is there afterwards. -/
  above : ∀ l n, d.laid (l ++ [n]) ≠ none → l = Path.start s.here p ∨ l ∈ d.directories
  /-- The document is only written when all goes well, and not in place of a directory. -/
  file : ∀ e, d.file = some e →
    e.1 = p.place s.here ∧ s.get? e.1 ≠ some .directory ∧ ∃ a, r = .ok a
  /-- When there is no result, new directories are left just if something was too long and one could
  be made. -/
  trace : ∀ e, r = .error e → ((∃ l ∈ d.directories, s.get? l = none) ↔
    e = .write p .nameTooLong ∧ s.TooLong p ∧ s.MissesDirectory p)

/-- All directories were there before, unless there is a result or a name is too long. -/
theorem Fits.traceless (h : d.Fits s p r) (e : Failure) (he : r = .error e)
    (hne : ∀ p, e ≠ .write p .nameTooLong) : ∀ l ∈ d.directories, s.get? l = some .directory := by
  intro l hl
  refine (h.directories l hl).2.resolve_left fun hnone => ?_
  exact hne p ((h.trace e he).mp ⟨l, hl, hnone⟩).1

theorem done_empty (s : FileStore) : Done {} s s := ⟨rfl, fun _ => rfl⟩

theorem fits_empty (h : r = .error (.write p .nameTooLong) → ¬ s.MissesDirectory p) :
    Fits {} s p r where
  directories _ hl := absurd hl List.not_mem_nil
  above _ _ hl := absurd rfl hl
  file _ he := by cases he
  trace e he := by
    refine ⟨fun ⟨l, hl, _⟩ => absurd hl List.not_mem_nil, fun ⟨hlong, _, hmisses⟩ => ?_⟩
    exact absurd hmisses (h (he.trans (congrArg _ hlong)))

theorem laid_eq_some (h : d.laid l = some i) :
    (l ∈ d.directories ∧ i = .directory) ∨ ∃ c, d.file = some (l, c) ∧ i = .file c := by
  unfold laid at h
  split_ifs at h with hl
  · exact Or.inl ⟨List.contains_iff_mem.mp hl, (Option.some.inj h).symm⟩
  · obtain ⟨e, he, rfl⟩ := Option.map_eq_some_iff.mp h
    obtain ⟨hfile, heq⟩ := Option.filter_eq_some_iff.mp he
    obtain rfl := beq_iff_eq.mp heq
    exact Or.inr ⟨e.2, hfile, rfl⟩

theorem laid_of_mem (h : l ∈ d.directories) : d.laid l = some .directory :=
  if_pos (List.contains_iff_mem.mpr h)

/-- Directories stay: the document does not take the place of one. -/
theorem Fits.get?_directory (h : d.Fits s p r) (hsame : Undisturbed s s' p) {s'' : FileStore}
    (hdone : d.Done s' s'') (hl : s'.get? l = some .directory) : s''.get? l = some .directory := by
  rw [hdone.item]
  cases hlaid : d.laid l with
  | none => exact hl
  | some i =>
    rcases laid_eq_some hlaid with ⟨-, rfl⟩ | ⟨c, hfile, -⟩
    · rfl
    · obtain ⟨hplace, hdir, -⟩ := h.file _ hfile
      dsimp only at hplace hdir
      rw [hplace, ← hsame.place, ← hplace] at hdir
      exact absurd hl hdir

/-- A rooted store is rooted afterwards. -/
theorem Fits.rooted (h : d.Fits s p r) (hs : Rooted s') (hsame : Undisturbed s s' p)
    {s'' : FileStore} (hdone : d.Done s' s'') : Rooted s'' := by
  refine ⟨fun l n hne => ?_, h.get?_directory hsame hdone (hdone.here ▸ hs.here)⟩
  rw [hdone.item] at hne
  cases hlaid : d.laid (l ++ [n]) with
  | some i =>
    rcases h.above l n (hlaid ▸ Option.some_ne_none _) with rfl | hl
    · rw [← hsame.here]
      exact h.get?_directory hsame hdone (hs.get?_start p)
    · rw [hdone.item, laid_of_mem hl]
      rfl
  | none =>
    rw [hlaid, Option.none_or] at hne
    exact h.get?_directory hsame hdone (hs.above l n hne)

end Deed

/-! ### Writing -/

theorem writeJson_of_error {e : FileError} (hq : Path.parent? p = some q)
    (h : (s.createDirectories q).2 = .error e) :
    s.writeJson v p = ((s.createDirectories q).1, .error (.write p e)) := by
  unfold writeJson
  rw [hq, Option.getD_some]
  rcases heq : s.createDirectories q with ⟨s₁, r⟩
  rw [heq] at h
  obtain rfl := h
  rfl

theorem writeJson_of_ok (hq : Path.parent? p = some q) (h : (s.createDirectories q).2 = .ok ()) :
    s.writeJson v p =
      match (s.createDirectories q).1.write p (Utf8.encode (v.write .tabs)) with
      | .error e => ((s.createDirectories q).1, .error (.write p e))
      | .ok s => (s, .ok ()) := by
  unfold writeJson
  rw [hq, Option.getD_some]
  rcases heq : s.createDirectories q with ⟨s₁, r⟩
  rw [heq] at h
  obtain rfl := h
  rfl

theorem not_mem_opened (n : Text) : b ++ ns ++ [n] ∉ (s.opened b ns).1 := by
  intro hmem
  obtain ⟨ms, -, hms, heq, -⟩ := exists_of_mem_opened hmem
  rw [List.append_assoc, List.append_cancel_left_eq] at heq
  rw [← heq] at hms
  exact absurd hms.length_le (by simp)

/-- Above a directory all directories are there. -/
theorem there_of_get? (hs : Rooted s) (ht : s.get? (b ++ ns ++ [n]) ≠ none) :
    ∀ l ∈ (s.opened b ns).1, s.get? l = some .directory := by
  intro l hl
  obtain ⟨ms, -, hms, heq, -⟩ := exists_of_mem_opened hl
  have hfront : l <+: b ++ ns ++ [n] := by
    rw [heq, List.append_assoc, List.prefix_append_right_inj]
    exact hms.trans (List.prefix_append _ _)
  refine hs.get?_of_isPrefix hfront ?_ ht
  rintro rfl
  exact not_mem_opened n hl

/-- How writing to the place of a document ends when the directories above it are there. -/
def placed (s : FileStore) (p : Path) (l : Location) : Except FileError Unit :=
  if pathLimit < byteCount p then .error .nameTooLong
  else match s.look l with
    | .error e => .error e
    | .ok (some .directory) => .error .isDirectory
    | .ok _ => .ok ()

theorem placed_congr (h : s'.get? l = s.get? l) : s'.placed p l = s.placed p l := by
  rw [placed, placed, look, look, h]

theorem placed_error {e : FileError} (h : s.placed p l = .error e) :
    (e = .nameTooLong ∧ (pathLimit < byteCount p ∨ ∃ m ∈ l, nameLimit < byteCount m)) ∨
      e = .isDirectory ∧ s.get? l = some .directory := by
  unfold placed at h
  split_ifs at h with hlimit
  · exact Or.inl ⟨(Except.error.inj h).symm, Or.inl hlimit⟩
  · rcases hlook : s.look l with e' | (_ | (c | _)) <;> rw [hlook] at h
    · obtain rfl := Except.error.inj h
      exact Or.inl ((look_eq_error hlook).imp_right Or.inr)
    · cases h
    · cases h
    · exact Or.inr ⟨(Except.error.inj h).symm, (look_eq_ok_iff.mp hlook).2⟩

theorem placed_ok (h : s.placed p l = .ok ()) : s.get? l ≠ some .directory := by
  unfold placed at h
  split_ifs at h
  rcases hlook : s.look l with e' | (_ | (c | _)) <;> rw [hlook] at h
  · cases h
  · rw [(look_eq_ok_iff.mp hlook).2]
    simp
  · rw [(look_eq_ok_iff.mp hlook).2]
    simp
  · cases h

theorem write_of_opens (hp : s.DescendsFrom b p (ns ++ [n])) (hzero : p.contains '\x00' = false)
    (hok : (s.opened b ns).2 = .ok ()) (h : Opens (s.opened b ns).1 s s')
    (content : Utf8.Bytes) : s'.write p content =
      match s.placed p (b ++ ns ++ [n]) with
      | .error e => .error e
      | .ok () => .ok (s'.put (b ++ ns ++ [n]) (.file content)) := by
  have hslash := hp.descends.dropSlashes_eq
  by_cases hlimit : pathLimit < byteCount p
  · simp only [write, hslash, spot_eq hp.descends, hzero, hlimit, placed, Bool.false_eq_true,
      if_false, if_true]
  · have hspot := h.spot_eq hp hzero hlimit hok
    have hlook : s'.look (b ++ ns ++ [n]) = s.look (b ++ ns ++ [n]) := by
      rw [look, look, h.item, if_neg (not_mem_opened n)]
    simp only [write, hslash, hspot, hlook, hlimit, placed, bne_self_eq_false, Bool.false_eq_true,
      if_false]
    rcases s.look (b ++ ns ++ [n]) with e | (_ | (c | _)) <;> rfl

/-- How writing a document ends whose path goes down from a directory by the names. -/
def ending (s : FileStore) (p : Path) (b : Location) (ns : List Text) (n : Text) :
    Except FileError Unit :=
  match (s.opened b ns).2 with
  | .error e => .error e
  | .ok () => s.placed p (b ++ ns ++ [n])

/-- The deed of writing a document whose path goes down from a directory by the names. -/
def deed (s : FileStore) (p : Path) (b : Location) (ns : List Text) (n : Text)
    (content : Utf8.Bytes) : Deed where
  directories := (s.opened b ns).1
  file := if (s.ending p b ns n).isOk then some (b ++ ns ++ [n], content) else none

theorem ending_ok (h : s.ending p b ns n = .ok ()) :
    (s.opened b ns).2 = .ok () ∧ s.get? (b ++ ns ++ [n]) ≠ some .directory := by
  unfold ending at h
  cases hr : (s.opened b ns).2 with
  | error e =>
    rw [hr] at h
    cases h
  | ok =>
    rw [hr] at h
    exact ⟨rfl, placed_ok h⟩

/-- An error other than one of length is met where no directory is missing. -/
theorem ending_error (hs : Rooted s) {e : FileError} (h : s.ending p b ns n = .error e)
    (hne : e ≠ .nameTooLong) : ∀ l ∈ (s.opened b ns).1, s.get? l = some .directory := by
  unfold ending at h
  cases hr : (s.opened b ns).2 with
  | error e' =>
    rw [hr] at h
    exact hs.there_of_error hr fun heq => hne (Except.error.inj h ▸ heq)
  | ok =>
    rw [hr] at h
    have hdir := ((placed_error h).resolve_left fun hlong => hne hlong.1).2
    exact there_of_get? hs (hdir ▸ Option.some_ne_none _)

theorem deed_file {content : Utf8.Bytes} {e : Location × Utf8.Bytes}
    (h : (s.deed p b ns n content).file = some e) :
    e = (b ++ ns ++ [n], content) ∧ s.ending p b ns n = .ok () := by
  unfold deed at h
  cases hending : s.ending p b ns n with
  | error e' =>
    rw [hending] at h
    cases h
  | ok =>
    rw [hending] at h
    exact ⟨(Option.some.inj h).symm, rfl⟩

theorem Opens.done {ls : List Location} (h : Opens ls s s') :
    Deed.Done { directories := ls } s s' := by
  refine ⟨h.here, fun l => ?_⟩
  rw [h.item, Deed.laid, List.contains_eq_mem]
  by_cases hl : l ∈ ls
  · rw [if_pos hl, if_pos (decide_eq_true hl)]
    rfl
  · rw [if_neg hl, decide_eq_false hl]
    rfl

theorem Opens.done_put {ls : List Location} (h : Opens ls s s') (ht : t ∉ ls) (hne : t ≠ [])
    (content : Utf8.Bytes) :
    Deed.Done { directories := ls, file := some (t, content) } s (s'.put t (.file content)) := by
  refine ⟨h.here, fun l => ?_⟩
  rw [get?_put hne]
  by_cases hl : l = t
  · subst hl
    rw [if_pos rfl, Deed.laid, List.contains_eq_mem, decide_eq_false ht,
      if_neg Bool.false_ne_true, Option.filter_some, if_pos (beq_self_eq_true l)]
    rfl
  · have hother : Deed.laid { directories := ls, file := some (t, content) } l =
        Deed.laid { directories := ls } l := by
      rw [Deed.laid, Deed.laid, Option.filter_some, beq_eq_false_iff_ne.mpr (Ne.symm hl),
        if_neg Bool.false_ne_true, Option.filter_none]
    rw [if_neg hl, hother, h.done.item]

section Descends

variable (hp : s.DescendsFrom b p (ns ++ [n]))
include hp

theorem DescendsFrom.place_concat : p.place s.here = b ++ ns ++ [n] := by
  rw [hp.place_eq, List.append_assoc]

theorem contains_eq_false_of_parent (hdown : q.Descends ns) (hzero : q.contains '\x00' = false)
    (hn : '\x00' ∉ n) : p.contains '\x00' = false := by
  rw [List.contains_eq_mem, decide_eq_false_iff_not] at hzero ⊢
  intro hmem
  obtain ⟨m, hm, hmem⟩ := hp.descends.exists_mem hmem (by decide) (by decide)
  rcases List.mem_append.mp hm with hm | hm
  · exact hzero (hdown.mem_of_mem hm hmem)
  · exact hn (List.mem_singleton.mp hm ▸ hmem)

/-- Writing ends as it is foretold, with the deed foretold. -/
theorem writeJson_eq (hs : Rooted s) (hq : Path.parent? p = some q) (hdown : s.DescendsFrom b q ns)
    (hzero : q.contains '\x00' = false) (hlimit : ¬ pathLimit < byteCount q) (hn : '\x00' ∉ n)
    (v : Json.Value) :
    (s.writeJson v p).2 = (s.ending p b ns n).mapError (.write p) ∧
      (s.deed p b ns n (Utf8.encode (v.write .tabs))).Done s (s.writeJson v p).1 := by
  obtain ⟨hmade, hopens⟩ := createDirectories_eq hs hdown hzero hlimit
  cases hr : (s.opened b ns).2 with
  | error e =>
    have hending : s.ending p b ns n = .error e := by rw [ending, hr]
    rw [writeJson_of_error hq (hmade.trans hr), deed, hending]
    exact ⟨rfl, hopens.done⟩
  | ok =>
    have hending : s.ending p b ns n = s.placed p (b ++ ns ++ [n]) := by rw [ending, hr]
    have hzero' := contains_eq_false_of_parent hp hdown.descends hzero hn
    rw [writeJson_of_ok hq (hmade.trans hr), write_of_opens hp hzero' hr hopens, deed, hending]
    cases s.placed p (b ++ ns ++ [n]) with
    | error e => exact ⟨rfl, hopens.done⟩
    | ok => exact ⟨rfl, hopens.done_put (not_mem_opened n) (by simp) _⟩

/-- What is foretold is the same where the document and what is above it are undisturbed. -/
theorem undisturbed_congr (hsame : Undisturbed s s' p) :
    s'.opened b ns = s.opened b ns ∧ s'.ending p b ns n = s.ending p b ns n := by
  have hplace := hp.place_concat
  have hopened : s'.opened b ns = s.opened b ns := opened_congr fun ms _ hms => by
    have hfront : b ++ ms <+: b ++ ns := (List.prefix_append_right_inj b).mpr hms
    refine hsame.above _ (hplace ▸ hfront.trans (List.prefix_append _ _)) fun heq => ?_
    rw [heq, hplace] at hfront
    exact absurd hfront.length_le (by simp)
  refine ⟨hopened, ?_⟩
  rw [ending, ending, hopened, placed_congr (hplace ▸ hsame.place)]

theorem tooLong_of_ending (h : s.ending p b ns n = .error .nameTooLong) : s.TooLong p := by
  rw [TooLong, hp.place_concat]
  unfold ending at h
  cases hr : (s.opened b ns).2 with
  | error e =>
    rw [hr] at h
    obtain rfl := Except.error.inj h
    obtain ⟨-, m, hm, hlong⟩ := (opened_error hr).resolve_right (by simp)
    exact Or.inr ⟨m, List.mem_append_left _ hm, hlong⟩
  | ok =>
    rw [hr] at h
    exact ((placed_error h).resolve_right (by simp)).2

/-- A missing directory is one that is made, or there is an error before. -/
theorem exists_names_of_missing (hs : Rooted s) (hl : l <+: p.place s.here)
    (hne : l ≠ p.place s.here) (hnone : s.get? l = none) :
    ∃ ms, ms ≠ [] ∧ ms <+: ns ∧ l = b ++ ms := by
  rw [hp.place_concat] at hl hne
  have hfront : l <+: b ++ ns := (List.prefix_concat_iff.mp hl).resolve_left hne
  rcases List.prefix_or_prefix_of_prefix hfront (List.prefix_append b ns) with hbelow | ⟨ms, rfl⟩
  · -- the directory to start from is there, and so is what is above it
    have hthere : s.get? l = some .directory := by
      rcases eq_or_ne l b with rfl | hne
      · exact hp.there
      · exact hs.get?_of_isPrefix hbelow hne (hp.there ▸ Option.some_ne_none _)
    rw [hthere] at hnone
    cases hnone
  · refine ⟨ms, ?_, (List.prefix_append_right_inj b).mp hfront, rfl⟩
    rintro rfl
    rw [List.append_nil, hp.there] at hnone
    cases hnone

/-- Where a name or the path is too long, a directory is new just if it can be made. -/
theorem missing_iff_of_nameTooLong (hs : Rooted s) (hq : Path.parent? p = some q)
    (hlimit : ¬ pathLimit < byteCount q) (h : s.ending p b ns n = .error .nameTooLong) :
    (∃ l ∈ (s.opened b ns).1, s.get? l = none) ↔ s.MissesDirectory p := by
  rw [MissesDirectory, hq, Option.getD_some]
  constructor
  · rintro ⟨l, hl, hnone⟩
    obtain ⟨ms, -, hms, rfl, -⟩ := exists_of_mem_opened hl
    have hfront : b ++ ms <+: b ++ ns ++ [n] :=
      ((List.prefix_append_right_inj b).mpr hms).trans (List.prefix_append _ _)
    rw [← hp.place_concat] at hfront
    refine ⟨Nat.le_of_not_lt hlimit, b ++ ms, hfront, fun heq => ?_, hnone, short_of_mem_opened hl⟩
    exact not_mem_opened n (hp.place_concat ▸ heq ▸ hl)
  · rintro ⟨-, l, hlt, hne, hnone, hshort⟩
    obtain ⟨ms, hnil, hms, rfl⟩ := exists_names_of_missing hp hs hlt hne hnone
    refine ⟨b ++ ms, (mem_opened_or_error hnil hms).resolve_right ?_, hnone⟩
    -- an error on the way would be the one that is told, and no name on the way to `l` is too long
    rintro ⟨e, he, hlong⟩
    rw [ending, he] at h
    obtain ⟨m, hm, hlong⟩ := hlong (Except.error.inj h)
    exact absurd hlong (Nat.not_lt.mpr (hshort m hm))

/-- The deed that is foretold fits. -/
theorem fits_deed (hs : Rooted s) (hq : Path.parent? p = some q)
    (hlimit : ¬ pathLimit < byteCount q) (content : Utf8.Bytes) :
    (s.deed p b ns n content).Fits s p ((s.ending p b ns n).mapError (.write p)) where
  directories := by
    intro l hl
    obtain ⟨ms, -, hms, rfl, hkind⟩ := exists_of_mem_opened hl
    rw [hp.place_concat]
    refine ⟨⟨?_, fun heq => not_mem_opened n (heq ▸ hl)⟩, hkind⟩
    exact ((List.prefix_append_right_inj b).mpr hms).trans (List.prefix_append _ _)
  above := by
    intro l m hlaid
    rw [hp.start_eq]
    obtain ⟨i, hi⟩ := Option.ne_none_iff_exists'.mp hlaid
    rcases Deed.laid_eq_some hi with ⟨hl, -⟩ | ⟨c, hc, -⟩
    · exact above_mem_opened hl
    · obtain ⟨heq, hending⟩ := deed_file hc
      obtain rfl := (List.append_inj' (Prod.mk.inj heq).1 rfl).1
      rcases eq_or_ne ns [] with rfl | hne
      · exact Or.inl (List.append_nil b)
      · exact Or.inr (mem_opened_of_ok (ending_ok hending).1 ns hne List.prefix_rfl)
  file := by
    intro e he
    obtain ⟨rfl, hending⟩ := deed_file he
    exact ⟨hp.place_concat.symm, (ending_ok hending).2, (), by rw [hending]; rfl⟩
  trace := by
    intro e he
    cases hending : s.ending p b ns n with
    | error e' =>
      rw [hending] at he
      obtain rfl := Except.error.inj he
      by_cases hlong : e' = .nameTooLong
      · subst hlong
        have hlong := tooLong_of_ending hp hending
        exact (missing_iff_of_nameTooLong hp hs hq hlimit hending).trans
          ⟨fun h => ⟨rfl, hlong, h⟩, fun h => h.2.2⟩
      · refine ⟨fun ⟨l, hl, hnone⟩ => ?_, fun h => absurd (Failure.write.inj h.1).2 hlong⟩
        rw [ending_error hs hending hlong l hl] at hnone
        cases hnone
    | ok =>
      rw [hending] at he
      cases he

end Descends

/-- **Writing** ends in one way and with one deed in all stores in which the document and what is
above it are undisturbed. -/
theorem exists_deed_writeJson (hs : Rooted s) (hp : p.Descends (ns ++ [n])) (hn : '\x00' ∉ n)
    (v : Json.Value) :
    ∃ d r, Deed.Fits d s p r ∧ ∀ s', Rooted s' → Undisturbed s s' p →
      (s'.writeJson v p).2 = r ∧ d.Done s' (s'.writeJson v p).1 := by
  have hfrom := hs.descendsFrom hp
  obtain ⟨q, hq, hdown, -, -⟩ := hfrom.exists_parent
  by_cases hbad : q.contains '\x00' = true ∨ pathLimit < byteCount q
  · obtain ⟨e, hlong, he⟩ := exists_createDirectories_error hdown.descends hbad
    refine ⟨{}, .error (.write p e), Deed.fits_empty fun hr hmisses => ?_, fun s' _ _ => ?_⟩
    · rw [MissesDirectory, hq, Option.getD_some] at hmisses
      have hlimit := hlong (Failure.write.inj (Except.error.inj hr)).2
      exact absurd hmisses.1 (Nat.not_le.mpr hlimit)
    rw [writeJson_of_error hq (congrArg Prod.snd (he s')), he]
    exact ⟨rfl, Deed.done_empty s'⟩
  · rw [not_or, Bool.not_eq_true] at hbad
    refine ⟨_, _, fits_deed hfrom hs hq hbad.2 (Utf8.encode (v.write .tabs)),
      fun s' hs' hsame => ?_⟩
    obtain ⟨hopened, hending⟩ := undisturbed_congr hfrom hsame
    have hfrom' := hs'.descendsFrom hp
    have hdown' := hs'.descendsFrom hdown.descends
    rw [hsame.here] at hfrom' hdown'
    rw [hdown.start_eq] at hdown'
    have hdeed : s.deed p (Path.start s.here p) ns n = s'.deed p (Path.start s.here p) ns n :=
      funext fun c => by rw [deed, deed, hopened, hending]
    rw [← hending, hdeed]
    exact writeJson_eq hfrom' hs' hq hdown' hbad.1 hbad.2 hn v

/-! ### Emitting -/

/-- What emitting a file depends on is the same in both stores. -/
structure Surroundings (s s' : FileStore) (output source : Path) : Prop where
  /-- The path of the file passes the same kinds of things. -/
  passed : ∀ l ∈ source.visited s.here, SameKind s s' l
  /-- The file is the same. -/
  content : s'.get? (source.place s.here) = s.get? (source.place s.here)
  /-- Nothing has happened at the place of the document. -/
  undisturbed : Undisturbed s s' (Path.documentPath output source)

theorem Deed.Fits.map {d : Deed} {r : Except Failure α} {β : Type} (h : d.Fits s p r) (f : α → β) :
    d.Fits s p (r.map f) where
  directories := h.directories
  above := h.above
  file e he := by
    obtain ⟨hplace, hdir, a, rfl⟩ := h.file e he
    exact ⟨hplace, hdir, f a, rfl⟩
  trace e he := by
    cases r with
    | error e' =>
      obtain rfl := Except.error.inj he
      exact h.trace _ rfl
    | ok a => cases he

variable {timestamp : Text} {task : Task} {grammars : Grammars} {output source : Path}

theorem document_congr (h : Surroundings s s' output source) :
    s'.document timestamp task grammars source = s.document timestamp task grammars source := by
  rw [document, document, extract, extract, read_congr h.undisturbed.here h.passed h.content]

theorem not_mem_of_document {d : Document}
    (h : s.document timestamp task grammars source = .ok d) : '\x00' ∉ source := by
  intro hmem
  have hzero : source.contains '\x00' = true := by
    rwa [List.contains_eq_mem, decide_eq_true_iff]
  have hspot : s.spot source = .error .zeroCharacter := by rw [spot, if_pos hzero]
  simp only [document, extract, read, item?, hspot] at h
  cases h

/-- A document does not fail for what is at its own place. -/
theorem document_ne_write (p : Path) (e : FileError) :
    s.document timestamp task grammars source ≠ .error (.write p e) := by
  rw [document]
  cases h : s.extract task grammars source with
  | error e' =>
    rw [extract] at h
    split at h
    · obtain rfl := Except.error.inj h
      simp
    · cases h
  | ok parsed =>
    dsimp only
    split <;> simp

theorem emit_of_document {d : Document} (h : s.document timestamp task grammars source = .ok d) :
    s.emit timestamp task grammars output source =
      ((s.writeJson d.toJson (Path.documentPath output source)).1,
        (s.writeJson d.toJson (Path.documentPath output source)).2.map
          fun _ => Path.documentPath output source) := by
  unfold emit
  rw [h]
  dsimp only
  rcases s.writeJson d.toJson (Path.documentPath output source) with ⟨s₁, e | u⟩
  · rfl
  · rfl

/-- Emitting the file ends with the result and the deed in all stores that are the same in what it
depends on. -/
structure Emits (s : FileStore) (timestamp : Text) (task : Task) (grammars : Grammars)
    (output source : Path) (d : Deed) (r : Except Failure Path) : Prop where
  fits : d.Fits s (Path.documentPath output source) r
  emit : ∀ s', Rooted s' → Surroundings s s' output source →
    (s'.emit timestamp task grammars output source).2 = r ∧
      d.Done s' (s'.emit timestamp task grammars output source).1

/-- **Emitting** has one result and one deed. -/
theorem exists_deed_emit (hs : Rooted s) (hdots : .parent ∉ output.components) (timestamp : Text)
    (task : Task) (grammars : Grammars) (source : Path) :
    ∃ d r, Emits s timestamp task grammars output source d r := by
  cases hdocument : s.document timestamp task grammars source with
  | error e =>
    refine ⟨{}, .error e, Deed.fits_empty fun he => ?_, fun s' _ hsame => ?_⟩
    · obtain rfl := Except.error.inj he
      exact absurd hdocument (document_ne_write _ _)
    rw [emit, document_congr hsame, hdocument]
    exact ⟨rfl, Deed.done_empty s'⟩
  | ok document =>
    have hemit : ∀ s', Surroundings s s' output source →
        s'.emit timestamp task grammars output source =
          ((s'.writeJson document.toJson (Path.documentPath output source)).1,
            (s'.writeJson document.toJson (Path.documentPath output source)).2.map
              fun _ => Path.documentPath output source) := fun s' hsame =>
      emit_of_document ((document_congr hsame).trans hdocument)
    obtain ⟨os, hos⟩ := Path.exists_descends_documentPath hdots
    obtain ⟨init, n, hnames⟩ :=
      (List.eq_nil_or_concat' (Path.documentNames source)).resolve_left (Path.withSuffix_ne_nil _)
    have hp : (Path.documentPath output source).Descends (os ++ init ++ [n]) := by
      rw [List.append_assoc, ← hnames]
      exact hos source
    have hn : '\x00' ∉ n := fun hmem => by
      have hmem' : n ∈ Path.documentNames source :=
        hnames ▸ List.mem_append_right _ List.mem_cons_self
      rcases Path.mem_of_mem_documentNames hmem' hmem with h | h
      · exact not_mem_of_document hdocument h
      · revert h
        decide
    obtain ⟨d, r, hfits, hmade⟩ := exists_deed_writeJson hs hp hn document.toJson
    refine ⟨d, r.map fun _ => Path.documentPath output source, hfits.map _, fun s' hs' hsame => ?_⟩
    obtain ⟨hr, hdone⟩ := hmade s' hs' hsame.undisturbed
    rw [hemit s' hsame, hr]
    exact ⟨rfl, hdone⟩

end Marginalia.FileStore
