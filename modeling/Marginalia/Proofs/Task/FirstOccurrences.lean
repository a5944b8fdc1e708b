import Marginalia.Task
import Marginalia.Proofs.Text.Trim
import Mathlib.Data.List.Nodup
import Mathlib.Tactic.SplitIfs

/-!
# First occurrences

Entries of a list are the same when they have the same *key*. The *first occurrences* of a list are
the entries that stand at the first place of their key (`firstPlace`), in order (`Firsts`). So no
two of them are the same, and every entry is the same as one of them.

`keepFirst` computes them with the keys that it has seen (`firsts_keepFirst`), and leaves a list
without the same entry twice as it is (`keepFirst_of_nodup`). The tidy form of a list of texts keeps
the first occurrences of its trimmed entries (`tidyOf_tidy`).
-/

namespace Marginalia

variable {α κ : Type} [DecidableEq κ] {key : α → κ} {as bs cs : List α} {a b : α} {k : κ}
  {seen : List κ}

/-! ### Places -/

/-- The place of the first entry with a key, the length of the list if there is none. -/
def firstPlace (key : α → κ) (as : List α) (k : κ) : Nat := as.findIdx fun b => key b = k

theorem firstPlace_cons (key : α → κ) (a : α) (as : List α) (k : κ) :
    firstPlace key (a :: as) k = if key a = k then 0 else firstPlace key as k + 1 := by
  rw [firstPlace, List.findIdx_cons, Bool.cond_eq_ite]
  simp only [decide_eq_true_eq]
  rfl

theorem firstPlace_lt_length (ha : a ∈ as) : firstPlace key as (key a) < as.length :=
  List.findIdx_lt_length_of_exists ⟨a, ha, decide_eq_true rfl⟩

/-- At the first place of a key stands an entry with it. -/
theorem key_getElem_firstPlace (h : firstPlace key as k < as.length) :
    key as[firstPlace key as k] = k := by
  have hfound := List.findIdx_getElem (w := h)
  exact of_decide_eq_true hfound

/-- Where the entries are their own keys, the place is the one the library counts. -/
theorem firstPlace_id [DecidableEq α] [BEq α] [LawfulBEq α] (as : List α) (a : α) :
    firstPlace id as a = as.idxOf a := by
  rw [firstPlace, List.idxOf]
  congr 1
  funext b
  exact (beq_eq_decide b a).symm

/-- The place of a key in lists one after another: that of the first list which has an entry with
it, and the place of the entry there. -/
def placeAmong (key : α → κ) (lists : List (List α)) (k : κ) : Nat × Nat :=
  let i := lists.findIdx fun as => decide (∃ a ∈ as, key a = k)
  (i, firstPlace key (lists.getD i []) k)

theorem placeAmong_cons (key : α → κ) (as : List α) (lists : List (List α)) (k : κ) :
    placeAmong key (as :: lists) k =
      if ∃ a ∈ as, key a = k then (0, firstPlace key as k)
      else ((placeAmong key lists k).1 + 1, (placeAmong key lists k).2) := by
  by_cases h : ∃ a ∈ as, key a = k <;>
    simp only [placeAmong, List.findIdx_cons, h, decide_true, decide_false, cond_true, cond_false,
      if_true, if_false, List.getD_cons_zero, List.getD_cons_succ]

theorem firstPlace_append_of_exists (bs : List α) (h : ∃ a ∈ as, key a = k) :
    firstPlace key (as ++ bs) k = firstPlace key as k := by
  obtain ⟨a, ha, rfl⟩ := h
  exact List.findIdx_append.trans (if_pos (firstPlace_lt_length ha))

theorem firstPlace_append_of_not_exists (bs : List α) (h : ¬ ∃ a ∈ as, key a = k) :
    firstPlace key (as ++ bs) k = firstPlace key bs k + as.length := by
  have hnot : ¬ firstPlace key as k < as.length := fun hlt =>
    h ⟨_, List.getElem_mem hlt, key_getElem_firstPlace hlt⟩
  exact List.findIdx_append.trans (if_neg hnot)

/-- What comes first in the lists one after another comes first by its list and its place there. -/
theorem placeAmong_lt_of_firstPlace_lt {lists : List (List α)} {k k' : κ}
    (h : firstPlace key lists.flatten k < firstPlace key lists.flatten k') :
    Prod.Lex (· < ·) (· < ·) (placeAmong key lists k) (placeAmong key lists k') := by
  induction lists with
  | nil => exact absurd h (lt_irrefl 0)
  | cons as lists ih =>
    rw [List.flatten_cons] at h
    rw [placeAmong_cons, placeAmong_cons]
    split_ifs with hk hk' hk'
    · rw [firstPlace_append_of_exists _ hk, firstPlace_append_of_exists _ hk'] at h
      exact .right 0 h
    · exact .left _ _ (Nat.succ_pos _)
    · rw [firstPlace_append_of_not_exists _ hk, firstPlace_append_of_exists _ hk'] at h
      obtain ⟨a, ha, rfl⟩ := hk'
      have hlt : firstPlace key as (key a) < as.length := firstPlace_lt_length ha
      omega
    · rw [firstPlace_append_of_not_exists _ hk, firstPlace_append_of_not_exists _ hk'] at h
      rcases Prod.lex_def.mp (ih (Nat.lt_of_add_lt_add_right h)) with hlt | ⟨heq, hlt⟩
      · exact .left _ _ (Nat.succ_lt_succ hlt)
      · rw [heq]
        exact .right _ hlt

/-! ### First occurrences -/

/-- `bs` are the entries of `as` that stand at the first place of their key, in order. -/
structure Firsts (key : α → κ) (as bs : List α) : Prop where
  /-- They stand at their first place. -/
  mem_iff : ∀ a, a ∈ bs ↔ as[firstPlace key as (key a)]? = some a
  /-- They are in the order of their places. -/
  order : bs.Pairwise fun a b => firstPlace key as (key a) < firstPlace key as (key b)

namespace Firsts

theorem subset (h : Firsts key as bs) (hb : b ∈ bs) : b ∈ as :=
  List.mem_of_getElem? ((h.mem_iff b).mp hb)

/-- No two of them are the same. -/
theorem nodup_keys (h : Firsts key as bs) : (bs.map key).Nodup := by
  rw [List.Nodup, List.pairwise_map]
  refine h.order.imp fun hlt heq => ?_
  rw [heq] at hlt
  exact lt_irrefl _ hlt

/-- Every entry is the same as one of them. -/
theorem exists_key_eq (h : Firsts key as bs) (ha : a ∈ as) : ∃ b ∈ bs, key b = key a := by
  have hlt : firstPlace key as (key a) < as.length := firstPlace_lt_length ha
  have hkey := key_getElem_firstPlace hlt
  refine ⟨as[firstPlace key as (key a)], (h.mem_iff _).mpr ?_, hkey⟩
  rw [hkey, List.getElem?_eq_getElem hlt]

theorem exists_key_eq_iff (h : Firsts key as bs) :
    (∃ b ∈ bs, key b = k) ↔ ∃ a ∈ as, key a = k := by
  constructor
  · rintro ⟨b, hb, hk⟩
    exact ⟨b, h.subset hb, hk⟩
  · rintro ⟨a, ha, rfl⟩
    exact h.exists_key_eq ha

theorem mem_iff_mem [DecidableEq α] {as bs : List α} {a : α} (h : Firsts id as bs) :
    a ∈ bs ↔ a ∈ as := by
  refine ⟨h.subset, fun ha => ?_⟩
  obtain ⟨b, hb, rfl⟩ := h.exists_key_eq ha
  exact hb

end Firsts

/-! ### Computing them -/

/-- Keeps the first of the entries with the same key, the keys in `seen` counted as met before. -/
def keepFirst (key : α → κ) (seen : List κ) : List α → List α
  | [] => []
  | a :: as =>
    if key a ∈ seen then keepFirst key seen as else a :: keepFirst key (key a :: seen) as

theorem mem_keepFirst_iff :
    a ∈ keepFirst key seen as ↔ key a ∉ seen ∧ as[firstPlace key as (key a)]? = some a := by
  induction as generalizing seen with
  | nil => simp [keepFirst]
  | cons c as ih =>
    rw [keepFirst, firstPlace_cons]
    by_cases hc : key c = key a
    · rw [if_pos hc, List.getElem?_cons_zero, Option.some.injEq]
      split_ifs with hseen
      · have hmem : key a ∈ seen := hc ▸ hseen
        rw [ih]
        exact ⟨fun h => absurd hmem h.1, fun h => absurd hmem h.1⟩
      · rw [hc] at hseen
        rw [List.mem_cons, ih, hc]
        simp [hseen, eq_comm]
    · rw [if_neg hc, List.getElem?_cons_succ]
      split_ifs with hseen
      · exact ih
      · have hne : a ≠ c := fun heq => hc (congrArg key heq.symm)
        rw [List.mem_cons, or_iff_right hne, ih, List.mem_cons, not_or,
          and_iff_right (Ne.symm hc : key a ≠ key c)]

theorem keepFirst_pairwise :
    (keepFirst key seen as).Pairwise fun a b =>
      firstPlace key as (key a) < firstPlace key as (key b) := by
  induction as generalizing seen with
  | nil => exact List.Pairwise.nil
  | cons c as ih =>
    -- what is kept behind `c` has other keys than `c`, so its places move by one
    have hrest : ∀ seen : List κ, key c ∈ seen → (keepFirst key seen as).Pairwise fun a b =>
        firstPlace key (c :: as) (key a) < firstPlace key (c :: as) (key b) := by
      intro seen hseen
      refine (@ih seen).imp_of_mem fun {a b} ha hb hlt => ?_
      have hne : ∀ d ∈ keepFirst key seen as, key c ≠ key d := fun d hd heq =>
        (mem_keepFirst_iff.mp hd).1 (heq ▸ hseen)
      rw [firstPlace_cons, firstPlace_cons, if_neg (hne a ha), if_neg (hne b hb)]
      omega
    rw [keepFirst]
    split_ifs with hseen
    · exact hrest seen hseen
    · refine List.pairwise_cons.mpr ⟨fun a ha => ?_, hrest _ List.mem_cons_self⟩
      have hne : key c ≠ key a := fun heq =>
        (mem_keepFirst_iff.mp ha).1 (heq ▸ List.mem_cons_self)
      rw [firstPlace_cons, firstPlace_cons, if_pos rfl, if_neg hne]
      omega

/-- **First occurrences** are what is kept. -/
theorem firsts_keepFirst (key : α → κ) (as : List α) : Firsts key as (keepFirst key [] as) where
  mem_iff a := by
    rw [mem_keepFirst_iff]
    exact and_iff_right List.not_mem_nil
  order := keepFirst_pairwise

theorem keepFirst_congr {seen' : List κ} (h : ∀ a ∈ as, key a ∈ seen ↔ key a ∈ seen') :
    keepFirst key seen as = keepFirst key seen' as := by
  induction as generalizing seen seen' with
  | nil => rfl
  | cons a as ih =>
    rw [List.forall_mem_cons] at h
    have hrest : keepFirst key (key a :: seen) as = keepFirst key (key a :: seen') as := by
      refine ih fun b hb => ?_
      rw [List.mem_cons, List.mem_cons, h.2 b hb]
    rw [keepFirst, keepFirst, ih h.2, hrest]
    exact if_congr h.1 rfl rfl

/-- Entries can be left out for their keys before or afterwards. -/
theorem keepFirst_filter {wanted : α → Bool} (hw : ∀ a b, key a = key b → wanted a = wanted b) :
    keepFirst key seen (as.filter wanted) = (keepFirst key seen as).filter wanted := by
  induction as generalizing seen with
  | nil => rfl
  | cons a as ih =>
    by_cases ha : wanted a = true
    · rw [List.filter_cons_of_pos ha, keepFirst, keepFirst, ih, ih]
      split_ifs
      · rfl
      · rw [List.filter_cons_of_pos ha]
    · rw [List.filter_cons_of_neg ha, keepFirst]
      split_ifs with hseen
      · exact ih
      · rw [List.filter_cons_of_neg ha, ← ih]
        -- entries with the key of `a` are left out, so it does not matter that it has been seen
        refine keepFirst_congr fun b hb => ?_
        have hne : key b ≠ key a := fun heq => ha (hw b a heq ▸ (List.mem_filter.mp hb).2)
        rw [List.mem_cons, or_iff_right hne]

theorem dedupFrom_eq (seen entries : List Text) :
    dedupFrom seen entries = keepFirst id seen entries := by
  induction entries generalizing seen with
  | nil => rfl
  | cons t entries ih =>
    rw [dedupFrom, keepFirst, ih, ih, id_eq]
    by_cases hseen : t ∈ seen
    · rw [if_pos (List.contains_iff_mem.mpr hseen), if_pos hseen]
    · rw [if_neg (mt List.contains_iff_mem.mp hseen), if_neg hseen]

/-- The trimmed entries of a list, without empty ones. -/
def trimmedEntries (entries : List Text) : List Text :=
  (entries.map Text.trim).filter (!·.isEmpty)

theorem mem_trimmedEntries_iff {entries : List Text} {t : Text} :
    t ∈ trimmedEntries entries ↔ t ≠ [] ∧ ∃ e ∈ entries, Text.trim e = t := by
  rw [trimmedEntries, List.mem_filter, List.mem_map, Bool.not_eq_true', List.isEmpty_eq_false_iff,
    and_comm]

theorem firsts_tidy (entries : List Text) : Firsts id (trimmedEntries entries) (tidy entries) := by
  rw [tidy, dedupFrom_eq]
  exact firsts_keepFirst id _

theorem trim_of_mem_tidy {entries : List Text} {t : Text} (ht : t ∈ tidy entries) :
    Text.trim t = t ∧ t ≠ [] := by
  obtain ⟨hne, e, -, rfl⟩ := mem_trimmedEntries_iff.mp ((firsts_tidy entries).subset ht)
  exact ⟨((Text.trim_eq_nil_or_firm e).resolve_left hne).trim_eq, hne⟩

/-- `kept` is what tidying leaves of `entries`: the trimmed entries that are not empty, each once,
in the order in which they occur first. -/
structure TidyOf (entries kept : List Text) : Prop where
  /-- They are trimmed and not empty. -/
  trimmed : ∀ t ∈ kept, Text.trim t = t ∧ t ≠ []
  /-- None is there twice. -/
  nodup : kept.Nodup
  /-- They are the trimmed entries that are not empty. -/
  mem_iff : ∀ t, t ∈ kept ↔ t ≠ [] ∧ ∃ e ∈ entries, Text.trim e = t
  /-- They are in the order of their first places. -/
  order : kept.Pairwise fun a b =>
    (trimmedEntries entries).idxOf a < (trimmedEntries entries).idxOf b

theorem tidyOf_tidy (entries : List Text) : TidyOf entries (tidy entries) where
  trimmed _ ht := trim_of_mem_tidy ht
  nodup := by
    have hn := (firsts_tidy entries).nodup_keys
    rwa [List.map_id] at hn
  mem_iff t := by rw [(firsts_tidy entries).mem_iff_mem, mem_trimmedEntries_iff]
  order := by
    have horder := (firsts_tidy entries).order
    simp only [id_eq, firstPlace_id] at horder
    exact horder

end Marginalia
