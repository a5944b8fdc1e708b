import Marginalia.FileStore
import Marginalia.Proofs.Path.Components
import Mathlib.Data.Set.List

/-!
# Paths below a directory

A path goes *below* a directory when it goes on from it by names alone, one at least (`Below`). A
path joined to a directory goes below it exactly when it has no two dots and some name, unless it
starts at the root (`below_join_iff`): then the directory plays no part.

Slashes at the end of a path do not change its components (`components_dropSlashes`).
-/

namespace Marginalia.Path

variable {o p q : Path}

/-- The path goes on from the directory by names alone. -/
def Below (o p : Path) : Prop :=
  ∃ ns : List Text, ns ≠ [] ∧ (∀ n ∈ ns, IsName n) ∧ components p = components o ++ ns.map .name

theorem Below.isPrefix (h : Below o p) :
    components o <+: components p ∧ components o ≠ components p := by
  obtain ⟨ns, hne, -, hp⟩ := h
  rw [hp]
  refine ⟨List.prefix_append _ _, fun heq => hne ?_⟩
  exact List.map_eq_nil_iff.mp (List.self_eq_append_right.mp heq)

/-! ### Relative paths -/

theorem mem_components_iff {c : Component} (hroot : c ≠ .root) (hc : c ≠ .current) :
    c ∈ components q ↔ c ∈ between q := by
  rw [components_eq, front, List.mem_append]
  split_ifs
  · simp [hroot]
  · simp [hc]
  · simp

/-- What stands between slashes are names, where there are no two dots. -/
theorem between_eq_names (h : .parent ∉ between q) :
    ∃ ns : List Text, between q = ns.map .name := by
  suffices hmem : between q ∈ Set.range (List.map Component.name) by
    obtain ⟨ns, hns⟩ := hmem
    exact ⟨ns, hns.symm⟩
  rw [Set.range_list_map]
  intro c hc
  obtain ⟨piece, -, hpiece⟩ := List.mem_filterMap.mp hc
  cases c with
  | name n => exact ⟨n, rfl⟩
  | parent => exact absurd hc h
  | root | current =>
    unfold component? at hpiece
    split_ifs at hpiece <;> cases hpiece

/-- **Below**: a relative path leads below a directory if it has no two dots and some name. -/
theorem below_join_iff (ho : o ≠ []) (hq : isAbsolute q = false) :
    Below o (join o q) ↔ .parent ∉ components q ∧ ∃ n, .name n ∈ components q := by
  have hparent : .parent ∈ components q ↔ .parent ∈ between q :=
    mem_components_iff (by simp) (by simp)
  have hname : (∃ n, .name n ∈ components q) ↔ ∃ n, .name n ∈ between q :=
    exists_congr fun n => mem_components_iff (by simp) (by simp)
  rw [hparent, hname, Below, components_join_relative ho hq]
  simp only [List.append_cancel_left_eq]
  constructor
  · rintro ⟨ns, hne, -, hns⟩
    obtain ⟨n, ms, rfl⟩ := List.exists_cons_of_ne_nil hne
    rw [hns]
    exact ⟨by simp, n, by simp⟩
  · rintro ⟨hdots, n, hn⟩
    obtain ⟨ns, hns⟩ := between_eq_names hdots
    refine ⟨ns, ?_, fun m hm => ?_, hns⟩
    · rintro rfl
      rw [hns] at hn
      cases hn
    · refine isName_of_mem_components (p := q) ?_
      rw [mem_components_iff (by simp) (by simp), hns]
      exact List.mem_map_of_mem hm

/-! ### Slashes at the end -/

theorem between_append_slashes (q : Path) (n : Nat) :
    between (q ++ List.replicate n '/') = between q := by
  induction n generalizing q with
  | zero => rw [List.replicate_zero, List.append_nil]
  | succ n ih =>
    have hslashes := ih []
    rw [List.nil_append] at hslashes
    rw [List.replicate_succ, between_append, hslashes]
    exact List.append_nil _

theorem components_append_slashes (hq : q ≠ []) (n : Nat) :
    components (q ++ List.replicate n '/') = components q := by
  cases n with
  | zero => rw [List.replicate_zero, List.append_nil]
  | succ n =>
    rw [components_eq, components_eq, between_append_slashes, List.replicate_succ, front_append,
      front_concat_slash hq]

/-- All slashes on their own are the root. -/
theorem components_replicate_slash (n : Nat) :
    components (List.replicate (n + 1) '/') = components ['/'] := by
  have hbetween := between_append_slashes [] (n + 1)
  rw [List.nil_append] at hbetween
  rw [components_eq, hbetween]
  rfl

theorem exists_eq_append_slashes (p : Path) :
    ∃ n, p = (p.reverse.dropWhile (· == '/')).reverse ++ List.replicate n '/' := by
  have hslashes : p.reverse.takeWhile (· == '/') =
      List.replicate (p.reverse.takeWhile (· == '/')).length '/' := by
    refine List.eq_replicate_length.mpr fun c hc => ?_
    have htrue := List.mem_takeWhile_imp hc
    exact beq_iff_eq.mp htrue
  refine ⟨(p.reverse.takeWhile (· == '/')).length, ?_⟩
  rw [← List.reverse_replicate, ← hslashes, ← List.reverse_append, List.takeWhile_append_dropWhile,
    List.reverse_reverse]

/-- Slashes at the end of a path do not matter. -/
theorem components_dropSlashes (p : Path) :
    components (FileStore.dropSlashes p) = components p := by
  obtain ⟨n, hsplit⟩ := exists_eq_append_slashes p
  unfold FileStore.dropSlashes
  split
  · rename_i hnil
    rw [hnil, List.nil_append] at hsplit
    rw [hsplit]
    cases n with
    | zero => rfl
    | succ n => exact (components_replicate_slash n).symm
  · rename_i hne
    generalize (p.reverse.dropWhile (· == '/')).reverse = q at hsplit hne
    rw [hsplit, components_append_slashes hne]

end Marginalia.Path
