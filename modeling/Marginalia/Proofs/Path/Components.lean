import Marginalia.Path
import Marginalia.Proofs.Text.Lines

/-!
# Components of joined paths

A *name* is a component that a path can go down by: it is not empty, has no slash, and is neither
one dot nor two (`IsName`). Names written one behind the other come back as the components of the
path (`components_names`).

The components of a path are what stands between its slashes, after a root or a dot in front. So a
path that goes on behind a slash has further components and keeps those it had, and joining a path
that has neither root nor dot in front puts its components behind the others
(`components_join`).
-/

namespace Marginalia

namespace Path

variable {o p q : Path} {n piece : Text} {ns : List Text}

/-! ### Names -/

/-- The text is a component to go down by. -/
structure IsName (n : Text) : Prop where
  ne_nil : n ≠ []
  ne_dot : n ≠ ['.']
  ne_dots : n ≠ ['.', '.']
  not_mem : '/' ∉ n

/-- All longer texts without a slash are names. -/
theorem isName_of_two_lt_length (hlen : 2 < n.length) (hmem : '/' ∉ n) : IsName n where
  ne_nil := by
    rintro rfl
    simp at hlen
  ne_dot := by
    rintro rfl
    simp at hlen
  ne_dots := by
    rintro rfl
    simp at hlen
  not_mem := hmem

theorem component?_eq_name_iff :
    component? piece = some (.name n) ↔
      piece = n ∧ n ≠ [] ∧ n ≠ ['.'] ∧ n ≠ ['.', '.'] := by
  unfold component?
  split_ifs with h₁ h₂
  · rw [Bool.or_eq_true, List.isEmpty_iff, beq_iff_eq] at h₁
    constructor
    · intro h
      cases h
    · rintro ⟨rfl, hnil, hdot, -⟩
      exact absurd h₁ (not_or.mpr ⟨hnil, hdot⟩)
  · rw [beq_iff_eq] at h₂
    constructor
    · intro h
      cases h
    · rintro ⟨rfl, -, -, hdots⟩
      exact absurd h₂ hdots
  · rw [Bool.or_eq_true, List.isEmpty_iff, beq_iff_eq, not_or] at h₁
    rw [beq_iff_eq] at h₂
    constructor
    · intro h
      obtain rfl := Component.name.inj (Option.some.inj h)
      exact ⟨rfl, h₁.1, h₁.2, h₂⟩
    · rintro ⟨rfl, -⟩
      rfl

theorem IsName.component?_eq (h : IsName n) : component? n = some (.name n) :=
  component?_eq_name_iff.mpr ⟨rfl, h.ne_nil, h.ne_dot, h.ne_dots⟩

/-- What stands between the slashes. -/
def between (p : Path) : List Component := (p.splitOn '/').filterMap component?

/-- The component in front of what stands between the slashes. -/
def front (p : Path) : List Component :=
  if isAbsolute p then [.root]
  else if (p.splitOn '/').head? == some ['.'] then [.current] else []

theorem components_eq (p : Path) : components p = front p ++ between p := rfl

theorem isName_of_mem_components (h : .name n ∈ components p) : IsName n := by
  rw [components_eq, List.mem_append] at h
  rcases h with h | h
  · unfold front at h
    split_ifs at h
    · simp at h
    · simp at h
    · cases h
  · obtain ⟨piece, hmem, hpiece⟩ := List.mem_filterMap.mp h
    obtain ⟨rfl, hnil, hdot, hdots⟩ := component?_eq_name_iff.mp hpiece
    exact ⟨hnil, hdot, hdots, Text.not_mem_of_mem_splitOn hmem⟩

section Names

variable (hns : ∀ n ∈ ns, IsName n) (hne : ns ≠ [])

include hns hne

theorem splitOn_names : (Text.join ['/'] ns).splitOn '/' = ns :=
  List.splitOn_intercalate '/' (fun n hn => (hns n hn).not_mem) hne

/-- Names have neither a root nor a dot in front. -/
theorem front_names : front (Text.join ['/'] ns) = [] := by
  obtain ⟨n, ms, rfl⟩ := List.exists_cons_of_ne_nil hne
  have hn : IsName n := hns n List.mem_cons_self
  obtain ⟨c, m, rfl⟩ := List.exists_cons_of_ne_nil hn.ne_nil
  have habsolute : isAbsolute (Text.join ['/'] ((c :: m) :: ms)) = false := by
    have hc : c ≠ '/' := fun heq => hn.not_mem (heq ▸ List.mem_cons_self)
    have hhead : (Text.join ['/'] ((c :: m) :: ms)).head? = some c := by
      cases ms <;> simp [Text.join_singleton, Text.join_cons_cons]
    rw [isAbsolute, hhead]
    simpa using hc
  have hdot : ((some (c :: m) : Option Text) == some ['.']) = false := by
    simpa using hn.ne_dot
  rw [front, habsolute, if_neg Bool.false_ne_true, splitOn_names hns hne, List.head?_cons, hdot,
    if_neg Bool.false_ne_true]

theorem between_names : between (Text.join ['/'] ns) = ns.map .name := by
  rw [between, splitOn_names hns hne, ← List.filterMap_eq_map]
  exact List.filterMap_congr fun n hn => (hns n hn).component?_eq

/-- Names written one behind the other come back. -/
theorem components_names : components (Text.join ['/'] ns) = ns.map .name := by
  rw [components_eq, front_names hns hne, between_names hns hne, List.nil_append]

end Names

/-! ### Going on behind a slash -/

theorem between_append (o q : Path) : between (o ++ '/' :: q) = between o ++ between q := by
  rw [between, List.splitOn_append_cons_self, List.filterMap_append, between, between]

/-- What follows a slash does not change what is in front. -/
theorem front_append (o q : Path) : front (o ++ '/' :: q) = front (o ++ ['/']) := by
  have habsolute : isAbsolute (o ++ '/' :: q) = isAbsolute (o ++ ['/']) := by
    cases o <;> rfl
  have hhead : ∀ q : Path, ((o ++ '/' :: q).splitOn '/').head? = (o.splitOn '/').head? := by
    intro q
    rw [List.splitOn_append_cons_self,
      List.head?_append_of_ne_nil _ (List.splitOn_ne_nil '/' o)]
  rw [front, habsolute, hhead q, front, hhead []]

theorem front_concat_slash (ho : o ≠ []) : front (o ++ ['/']) = front o := by
  have habsolute : isAbsolute (o ++ ['/']) = isAbsolute o := by
    obtain ⟨c, o, rfl⟩ := List.exists_cons_of_ne_nil ho
    rfl
  rw [front, habsolute, List.splitOn_append_cons_self,
    List.head?_append_of_ne_nil _ (List.splitOn_ne_nil '/' o), front]

theorem components_append (ho : o ≠ []) (q : Path) :
    components (o ++ '/' :: q) = components o ++ between q := by
  rw [components_eq, front_append, front_concat_slash ho, between_append, components_eq,
    List.append_assoc]

/-- Behind a directory, a dot in front does not matter either. -/
theorem components_join_relative (ho : o ≠ []) (hq : isAbsolute q = false) :
    components (join o q) = components o ++ between q := by
  rw [join, hq, if_neg Bool.false_ne_true]
  split_ifs with hend
  · rw [Bool.or_eq_true, List.isEmpty_iff, beq_iff_eq] at hend
    -- the slash at the end is the one to go on behind
    obtain ⟨init, rfl⟩ := List.getLast?_eq_some_iff.mp (hend.resolve_left ho)
    rw [List.append_assoc, List.singleton_append, components_eq, front_append, between_append,
      components_eq, between_append, List.append_assoc, List.append_assoc]
    rfl
  · exact components_append ho q

/-- **Joining**: a path without root or dot in front goes on where the other one ends. -/
theorem components_join (o : Path) (hq : front q = []) :
    components (join o q) = components o ++ components q := by
  have habsolute : isAbsolute q = false := by
    by_contra h
    rw [Bool.not_eq_false] at h
    rw [front, if_pos h] at hq
    cases hq
  by_cases ho : o = []
  · rw [ho, join, habsolute]
    rfl
  · rw [components_join_relative ho habsolute, components_eq q, hq, List.nil_append]

end Path

end Marginalia
