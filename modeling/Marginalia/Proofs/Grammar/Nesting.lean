import Marginalia.Proofs.Grammar.Assignments
import Mathlib.Logic.Function.Iterate

/-!
# Rules nested too deep

Rules with more than `depthLimit` rules above them do nothing. Without that limit rules would be
applied by `Rules.applyTopFreely`, however deep they are nested. `Rules.within k` are the rules
without those that have more than `k` rules above them; of the patterns with their levels
(`Rules.leveled`) it leaves those up to level `k` (`Rules.leveled_within`), and of the assignments
just as many (`Rules.assignments_within`).

So the limit takes rules away and changes nothing else: rules are applied like those within the
limit without one (`apply_eq_applyTopFreely_within`).
-/

namespace Marginalia.Grammar

variable {P : Type}

/-! ### No limit -/

mutual

/-- Applies rules to a source text, however deep they are nested. -/
def Rules.applyFreely : Rules Pattern → (source : Text) → Node → Node
  | .nil, _, n => n
  | .cons pattern actions rest, source, n =>
    rest.applyFreely source <| match pattern.match? source with
      | none => n
      | some captures => actions.applyFreely captures n

/-- Carries out actions on a node, however deep rules are nested in them. -/
def Actions.applyFreely : Actions Pattern → Captures → Node → Node
  | .nil, _, n => n
  | .assign _ targets rest, captures, n =>
    rest.applyFreely captures (assignAll targets captures n)
  | .refine name rules rest, captures, n =>
    rest.applyFreely captures <| match captures.text? name with
      | none => n
      | some text => if text.isEmpty then n else rules.applyFreely text n

end

/-- Applies rules to a node, each to the value that the rules before it have left, however deep
rules are nested in them. -/
def Rules.applyTopFreely : Rules Pattern → Node → Node
  | .nil, n => n
  | .cons pattern actions rest, n =>
    rest.applyTopFreely <| match pattern.match? n.value with
      | none => n
      | some captures => actions.applyFreely captures n

/-! ### Rules up to a level -/

mutual

/-- The rules without those nested more than `k` levels below them. -/
def Rules.within (k : Nat) : Rules P → Rules P
  | .nil => .nil
  | .cons pattern actions rest => .cons pattern (actions.within k) (rest.within k)

/-- The actions of a rule without the rules nested more than `k` levels below it. -/
def Actions.within (k : Nat) : Actions P → Actions P
  | .nil => .nil
  | .assign name targets rest => .assign name targets (rest.within k)
  | .refine name rules rest =>
    .refine name (if k = 0 then .nil else rules.within (k - 1)) (rest.within k)

end

mutual

/-- The patterns of rules with `level` rules above them, each with its own level. -/
def Rules.leveled (level : Nat) : Rules P → List (Nat × P)
  | .nil => []
  | .cons pattern actions rest => (level, pattern) :: (actions.leveled level ++ rest.leveled level)

/-- The patterns of the rules nested in actions, each with its level. -/
def Actions.leveled (level : Nat) : Actions P → List (Nat × P)
  | .nil => []
  | .assign _ _ rest => rest.leveled level
  | .refine _ rules rest => rules.leveled (level + 1) ++ rest.leveled level

end

mutual

theorem Rules.le_fst_leveled (rules : Rules P) (level : Nat) :
    ∀ r ∈ rules.leveled level, level ≤ r.1 := by
  cases rules with
  | nil => simp [Rules.leveled]
  | cons pattern actions rest =>
    rw [Rules.leveled, List.forall_mem_cons, List.forall_mem_append]
    exact ⟨Nat.le_refl level, Actions.le_fst_leveled actions level,
      Rules.le_fst_leveled rest level⟩

theorem Actions.le_fst_leveled (actions : Actions P) (level : Nat) :
    ∀ r ∈ actions.leveled level, level ≤ r.1 := by
  cases actions with
  | nil => simp [Actions.leveled]
  | assign name targets rest =>
    rw [Actions.leveled]
    exact Actions.le_fst_leveled rest level
  | refine name rules rest =>
    rw [Actions.leveled, List.forall_mem_append]
    exact ⟨fun r hr => Nat.le_of_succ_le (Rules.le_fst_leveled rules (level + 1) r hr),
      Actions.le_fst_leveled rest level⟩

end

mutual

/-- Of the patterns those up to level `k` are left. -/
theorem Rules.leveled_within (rules : Rules P) (k level : Nat) :
    (rules.within k).leveled level = (rules.leveled level).filter (·.1 ≤ level + k) := by
  cases rules with
  | nil => rfl
  | cons pattern actions rest =>
    rw [Rules.within, Rules.leveled, Rules.leveled, Actions.leveled_within actions,
      Rules.leveled_within rest, List.filter_cons, if_pos (by simp), List.filter_append]

theorem Actions.leveled_within (actions : Actions P) (k level : Nat) :
    (actions.within k).leveled level = (actions.leveled level).filter (·.1 ≤ level + k) := by
  cases actions with
  | nil => rfl
  | assign name targets rest =>
    rw [Actions.within, Actions.leveled, Actions.leveled, Actions.leveled_within rest]
  | refine name rules rest =>
    rw [Actions.within, Actions.leveled, Actions.leveled, Actions.leveled_within rest,
      List.filter_append]
    split_ifs with hk
    · rw [hk, Rules.leveled,
        filter_le_eq_nil (k := level + 0) (Rules.le_fst_leveled rules (level + 1))]
    · rw [Rules.leveled_within rules, show level + 1 + (k - 1) = level + k by omega]

end

mutual

/-- Where nothing is nested too deep, nothing is taken away. -/
theorem Rules.within_eq_self (rules : Rules P) (k level : Nat)
    (h : ∀ r ∈ rules.leveled level, r.1 ≤ level + k) : rules.within k = rules := by
  cases rules with
  | nil => rfl
  | cons pattern actions rest =>
    rw [Rules.leveled, List.forall_mem_cons, List.forall_mem_append] at h
    rw [Rules.within, Actions.within_eq_self actions k level h.2.1,
      Rules.within_eq_self rest k level h.2.2]

theorem Actions.within_eq_self (actions : Actions P) (k level : Nat)
    (h : ∀ r ∈ actions.leveled level, r.1 ≤ level + k) : actions.within k = actions := by
  cases actions with
  | nil => rfl
  | assign name targets rest =>
    rw [Actions.leveled] at h
    rw [Actions.within, Actions.within_eq_self rest k level h]
  | refine name rules rest =>
    rw [Actions.leveled, List.forall_mem_append] at h
    rw [Actions.within, Actions.within_eq_self rest k level h.2]
    split_ifs with hk
    · -- a rule here would have a level that is too high
      cases rules with
      | nil => rfl
      | cons pattern actions rest =>
        exact absurd (h.1 (level + 1, pattern) (by simp [Rules.leveled])) (by simp [hk])
    · have hbelow : ∀ r ∈ rules.leveled (level + 1), r.1 ≤ level + 1 + (k - 1) := fun r hr => by
        have := h.1 r hr
        omega
      rw [Rules.within_eq_self rules (k - 1) (level + 1) hbelow]

end

/-! ### What is assigned -/

mutual

/-- Without a limit, rules carry out all that they assign. -/
theorem Rules.applyFreely_eq (rules : Rules Pattern) (level : Nat) (source : Text) (n : Node) :
    rules.applyFreely source n = carryOut (rules.assignments level source) n := by
  cases rules with
  | nil => rw [Rules.applyFreely, Rules.assignments, carryOut_nil]
  | cons pattern actions rest =>
    rw [Rules.applyFreely, Rules.assignments, carryOut_append,
      Rules.applyFreely_eq rest level source]
    cases pattern.match? source with
    | none => rfl
    | some captures => exact congrArg _ (Actions.applyFreely_eq actions level captures n)

theorem Actions.applyFreely_eq (actions : Actions Pattern) (level : Nat) (captures : Captures)
    (n : Node) : actions.applyFreely captures n =
      carryOut (actions.assignments level captures) n := by
  cases actions with
  | nil => rw [Actions.applyFreely, Actions.assignments, carryOut_nil]
  | assign name targets rest =>
    rw [Actions.applyFreely, Actions.assignments, carryOut_append,
      Actions.applyFreely_eq rest level captures, assignAll_eq level]
  | refine name rules rest =>
    rw [Actions.applyFreely, Actions.assignments, carryOut_append,
      Actions.applyFreely_eq rest level captures]
    refine congrArg _ ?_
    cases captures.text? name with
    | none => rfl
    | some text =>
      dsimp only
      split_ifs
      · rfl
      · exact Rules.applyFreely_eq rules (level + 1) text n

end

mutual

/-- Of the assignments those up to level `k` are left. -/
theorem Rules.assignments_within (rules : Rules Pattern) (k level : Nat) (source : Text) :
    (rules.within k).assignments level source =
      (rules.assignments level source).filter (·.level ≤ level + k) := by
  cases rules with
  | nil => rfl
  | cons pattern actions rest =>
    rw [Rules.within, Rules.assignments, Rules.assignments, Rules.assignments_within rest,
      List.filter_append]
    cases pattern.match? source with
    | none => rfl
    | some captures => exact congrArg (· ++ _) (Actions.assignments_within actions k level captures)

theorem Actions.assignments_within (actions : Actions Pattern) (k level : Nat)
    (captures : Captures) :
    (actions.within k).assignments level captures =
      (actions.assignments level captures).filter (·.level ≤ level + k) := by
  cases actions with
  | nil => rfl
  | assign name targets rest =>
    have hown : ∀ a ∈ targets.map fun target : Field × Text =>
        (⟨level, target.1, render captures target.2⟩ : Assignment),
        decide (a.level ≤ level + k) = true :=
      List.forall_mem_map.mpr fun _ _ => decide_eq_true (Nat.le_add_right level k)
    rw [Actions.within, Actions.assignments, Actions.assignments,
      Actions.assignments_within rest, List.filter_append, List.filter_eq_self.mpr hown]
  | refine name rules rest =>
    rw [Actions.within, Actions.assignments, Actions.assignments,
      Actions.assignments_within rest, List.filter_append]
    refine congrArg (· ++ _) ?_
    cases captures.text? name with
    | none => rfl
    | some text =>
      dsimp only
      split_ifs with hempty hk
      · rfl
      · rw [hk, Rules.assignments,
          filter_le_eq_nil (k := level + 0) (Rules.le_level rules (level + 1) text)]
      · rw [Rules.assignments_within rules, show level + 1 + (k - 1) = level + k by omega]

end

/-! ### The limit -/

theorem Actions.apply_eq_applyFreely_within (actions : Actions Pattern) (captures : Captures)
    (n : Node) :
    actions.apply 0 captures n = (actions.within depthLimit).applyFreely captures n := by
  rw [Actions.apply_eq actions (Nat.zero_le _), Actions.applyFreely_eq _ 0,
    Actions.assignments_within, Nat.zero_add, shallow]

theorem Rules.applyTop_eq_applyTopFreely_within : ∀ (rules : Rules Pattern) (n : Node),
    rules.applyTop n = (rules.within depthLimit).applyTopFreely n
  | .nil, n => by rw [Rules.applyTop, Rules.within, Rules.applyTopFreely]
  | .cons pattern actions rest, n => by
    rw [Rules.applyTop, Rules.within, Rules.applyTopFreely,
      Rules.applyTop_eq_applyTopFreely_within rest]
    cases pattern.match? n.value with
    | none => rfl
    | some captures => exact congrArg _ (actions.apply_eq_applyFreely_within captures n)

/-- **The depth limit** takes away the rules nested more than `depthLimit` levels below the top and
does nothing else: a grammar is applied like its other rules without a limit, all of its rules are
applied if none is nested too deep, and carried out are just those assignments of all its rules
whose level is within the limit. -/
theorem apply_eq_applyTopFreely_within (g : Grammar) (n : Node) :
    g.apply n = (g.rules.within depthLimit).applyTopFreely n ∧
      (g.rules.within depthLimit).leveled 0 =
        (g.rules.leveled 0).filter (·.1 ≤ depthLimit) ∧
      ((∀ r ∈ g.rules.leveled 0, r.1 ≤ depthLimit) → g.apply n = g.rules.applyTopFreely n) ∧
      g.apply n = carryOut (g.rules.assigned n.value) n := by
  have hprune : g.apply n = (g.rules.within depthLimit).applyTopFreely n :=
    g.rules.applyTop_eq_applyTopFreely_within n
  refine ⟨hprune, ?_, fun h => ?_, g.apply_eq_carryOut n⟩
  · rw [Rules.leveled_within, Nat.zero_add]
  · rw [hprune, g.rules.within_eq_self depthLimit 0 (by rwa [Nat.zero_add])]

/-- Rules at the limit are applied, rules below it are not, and the rules beside them are. -/
theorem apply_eq_applyTopFreely_at_limit :
    let whole : Pattern := ⟨["x".toList], fun t => some ⟨[("x".toList, t)]⟩⟩
    let set : Field → Rules Pattern := fun field =>
      .cons whole (.assign "x".toList [(field, "deep".toList)] .nil) .nil
    let nested : Rules Pattern → Rules Pattern := fun rules =>
      .cons whole (.refine "x".toList rules .nil) (set .flags)
    let g : Grammar := { rules := nested^[32] (set .keyword) }
    let n : Node := { value := "text".toList }
    (∀ r ∈ g.rules.leveled 0, r.1 ≤ depthLimit) ∧ g.apply n = g.rules.applyTopFreely n ∧
      g.apply n = { n with keyword := "deep".toList, flags := ["deep".toList] } ∧
      ({ rules := nested^[33] (set .keyword) } : Grammar).apply n =
        { n with flags := ["deep".toList] } := by
  intro whole set nested g n
  have hlevels : ∀ r ∈ g.rules.leveled 0, r.1 ≤ depthLimit := by decide +kernel
  exact ⟨hlevels, (apply_eq_applyTopFreely_within g n).2.2.1 hlevels, by decide +kernel,
    by decide +kernel⟩

end Marginalia.Grammar
