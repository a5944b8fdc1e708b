import Marginalia.Grammar
import Mathlib.Data.List.Basic
import Mathlib.Tactic.SplitIfs

/-!
# What rules assign

All that rules do to a node is to assign texts to its fields. What they assign is made of captured
text, so it can be read off the source text alone: `Rules.assignments` lists it in order, each
assignment with its *level*, the number of rules above the one that makes it. The list knows no
limit to the nesting; the rules carry out what is in it up to `depthLimit` (`Rules.apply_eq`).

Rules at the top are tried on the value of the node, each on what those before it have left. This
value does not depend on the rest of the node (`value_carryOut`), so what a whole grammar assigns is
decided by the value that it finds (`Rules.assigned`, `Grammar.apply_eq_carryOut`), and so is what
all grammars of a task assign (`Grammars.apply_eq_carryOut`).
-/

namespace Marginalia

namespace Grammar

/-- A text for a field, from a rule that has `level` rules above it. -/
structure Assignment where
  /-- The number of rules above the one that makes the assignment. -/
  level : Nat
  /-- The field. -/
  field : Field
  /-- The text. -/
  text : Text
deriving DecidableEq, Repr

/-- The node after the assignments, in order. -/
def carryOut (as : List Assignment) (n : Node) : Node :=
  as.foldl (fun n a => a.field.assign n a.text) n

/-- The value after the assignments. -/
def valueAfter (as : List Assignment) (value : Text) : Text :=
  as.foldl (fun value a => if a.field = .value then a.text else value) value

/-- The assignments that are not too deep. -/
def shallow (as : List Assignment) : List Assignment := as.filter (·.level ≤ depthLimit)

mutual

/-- What rules with `level` rules above them assign on a source text, no matter how deep. -/
def Rules.assignments (level : Nat) : Rules Pattern → (source : Text) → List Assignment
  | .nil, _ => []
  | .cons pattern actions rest, source =>
    (match pattern.match? source with
      | none => []
      | some captures => actions.assignments level captures) ++ rest.assignments level source

/-- What actions assign, no matter how deep. -/
def Actions.assignments (level : Nat) : Actions Pattern → Captures → List Assignment
  | .nil, _ => []
  | .assign _ targets rest, captures =>
    targets.map (fun target => ⟨level, target.1, render captures target.2⟩) ++
      rest.assignments level captures
  | .refine name rules rest, captures =>
    (match captures.text? name with
      | none => []
      | some text => if text.isEmpty then [] else rules.assignments (level + 1) text) ++
      rest.assignments level captures

end

/-- What rules at the top assign to a node with the given value, within the depth limit. Each rule
is tried on the value that the rules before it have left. -/
def Rules.assigned : Rules Pattern → (value : Text) → List Assignment
  | .nil, _ => []
  | .cons pattern actions rest, value =>
    let own := match pattern.match? value with
      | none => []
      | some captures => shallow (actions.assignments 0 captures)
    own ++ rest.assigned (valueAfter own value)

variable {as : List Assignment}

/-! ### Carrying out -/

@[simp] theorem carryOut_nil (n : Node) : carryOut [] n = n := rfl

@[simp] theorem carryOut_cons (a : Assignment) (as : List Assignment) (n : Node) :
    carryOut (a :: as) n = carryOut as (a.field.assign n a.text) := rfl

@[simp] theorem carryOut_append (as as' : List Assignment) (n : Node) :
    carryOut (as ++ as') n = carryOut as' (carryOut as n) := List.foldl_append

@[simp] theorem shallow_append (as as' : List Assignment) :
    shallow (as ++ as') = shallow as ++ shallow as' := List.filter_append as as'

theorem shallow_eq_self (h : ∀ a ∈ as, a.level ≤ depthLimit) : shallow as = as :=
  List.filter_eq_self.mpr fun a ha => decide_eq_true (h a ha)

theorem filter_le_eq_nil {α : Type} {as : List α} {f : α → Nat} {k : Nat}
    (h : ∀ a ∈ as, k < f a) : as.filter (f · ≤ k) = [] :=
  List.filter_eq_nil_iff.mpr fun a ha hle => Nat.not_le_of_lt (h a ha) (of_decide_eq_true hle)

theorem shallow_eq_nil (h : ∀ a ∈ as, depthLimit < a.level) : shallow as = [] :=
  filter_le_eq_nil h

theorem assignAll_eq (level : Nat) (targets : List (Field × Text)) (captures : Captures)
    (n : Node) :
    assignAll targets captures n =
      carryOut (targets.map fun target => ⟨level, target.1, render captures target.2⟩) n := by
  rw [carryOut, List.foldl_map, assignAll]

/-- The value that assignments leave depends on the value before them and on nothing else. -/
theorem value_carryOut (as : List Assignment) (n : Node) :
    (carryOut as n).value = valueAfter as n.value := by
  induction as generalizing n with
  | nil => rfl
  | cons a as ih =>
    obtain ⟨level, field, text⟩ := a
    rw [carryOut_cons, ih, valueAfter, valueAfter, List.foldl_cons]
    cases field <;> rfl

/-! ### Levels -/

mutual

theorem Rules.le_level (rules : Rules Pattern) (level : Nat) (source : Text) :
    ∀ a ∈ rules.assignments level source, level ≤ a.level := by
  cases rules with
  | nil => simp [Rules.assignments]
  | cons pattern actions rest =>
    rw [Rules.assignments, List.forall_mem_append]
    refine ⟨?_, Rules.le_level rest level source⟩
    cases pattern.match? source with
    | none => exact fun _ ha => absurd ha List.not_mem_nil
    | some captures => exact Actions.le_level actions level captures

theorem Actions.le_level (actions : Actions Pattern) (level : Nat) (captures : Captures) :
    ∀ a ∈ actions.assignments level captures, level ≤ a.level := by
  cases actions with
  | nil => simp [Actions.assignments]
  | assign name targets rest =>
    rw [Actions.assignments, List.forall_mem_append, List.forall_mem_map]
    exact ⟨fun _ _ => Nat.le_refl level, Actions.le_level rest level captures⟩
  | refine name rules rest =>
    rw [Actions.assignments, List.forall_mem_append]
    refine ⟨?_, Actions.le_level rest level captures⟩
    cases captures.text? name with
    | none => exact fun _ ha => absurd ha List.not_mem_nil
    | some text =>
      dsimp only
      split_ifs
      · exact fun _ ha => absurd ha List.not_mem_nil
      · exact fun a ha => Nat.le_of_succ_le (Rules.le_level rules (level + 1) text a ha)

end

/-! ### Applying -/

mutual

/-- **Rules** carry out what they assign within the depth limit, in order, and nothing else. -/
theorem Rules.apply_eq (rules : Rules Pattern) {depth : Nat} (h : depth ≤ depthLimit)
    (source : Text) (n : Node) :
    rules.apply depth source n = carryOut (shallow (rules.assignments depth source)) n := by
  cases rules with
  | nil => rw [Rules.apply, Rules.assignments, shallow, List.filter_nil, carryOut_nil]
  | cons pattern actions rest =>
    rw [Rules.apply, Rules.assignments, shallow_append, carryOut_append,
      Rules.apply_eq rest h source]
    cases pattern.match? source with
    | none => rfl
    | some captures => exact congrArg _ (Actions.apply_eq actions h captures n)

theorem Actions.apply_eq (actions : Actions Pattern) {depth : Nat} (h : depth ≤ depthLimit)
    (captures : Captures) (n : Node) :
    actions.apply depth captures n =
      carryOut (shallow (actions.assignments depth captures)) n := by
  cases actions with
  | nil => rw [Actions.apply, Actions.assignments, shallow, List.filter_nil, carryOut_nil]
  | assign name targets rest =>
    have hown : ∀ a ∈ targets.map fun target : Field × Text =>
        (⟨depth, target.1, render captures target.2⟩ : Assignment), a.level ≤ depthLimit :=
      List.forall_mem_map.mpr fun _ _ => h
    rw [Actions.apply, Actions.assignments, shallow_append, carryOut_append,
      Actions.apply_eq rest h captures, shallow_eq_self hown, assignAll_eq depth]
  | refine name rules rest =>
    rw [Actions.apply, Actions.assignments, shallow_append, carryOut_append,
      Actions.apply_eq rest h captures]
    refine congrArg _ ?_
    cases captures.text? name with
    | none => rfl
    | some text =>
      dsimp only
      by_cases hempty : text.isEmpty = true
      · rw [if_pos (Or.inl hempty), if_pos hempty, shallow, List.filter_nil, carryOut_nil]
      · rw [if_neg hempty]
        by_cases hdeep : depthLimit < depth + 1
        · -- all that the rules below assign is too deep
          have hbelow : ∀ a ∈ rules.assignments (depth + 1) text, depthLimit < a.level :=
            fun a ha => Nat.lt_of_lt_of_le hdeep (Rules.le_level rules (depth + 1) text a ha)
          rw [if_pos (Or.inr hdeep), shallow_eq_nil hbelow, carryOut_nil]
        · rw [if_neg (not_or.mpr ⟨hempty, hdeep⟩),
            Rules.apply_eq rules (Nat.le_of_not_lt hdeep) text]

end

theorem Rules.applyTop_eq : ∀ (rules : Rules Pattern) (n : Node),
    rules.applyTop n = carryOut (rules.assigned n.value) n
  | .nil, n => by rw [Rules.applyTop, Rules.assigned, carryOut_nil]
  | .cons pattern actions rest, n => by
    rw [Rules.applyTop, Rules.applyTop_eq rest, Rules.assigned]
    cases pattern.match? n.value with
    | none => rfl
    | some captures =>
      dsimp only
      rw [Actions.apply_eq actions (Nat.zero_le _), value_carryOut, carryOut_append]

theorem apply_eq_carryOut (g : Grammar) (n : Node) :
    g.apply n = carryOut (g.rules.assigned n.value) n := g.rules.applyTop_eq n

end Grammar

namespace Grammars

/-- What grammars assign to a node with the given value. -/
def assigned : Grammars → (value : Text) → List Grammar.Assignment
  | [], _ => []
  | g :: gs, value =>
    g.rules.assigned value ++ assigned gs (Grammar.valueAfter (g.rules.assigned value) value)

theorem foldl_apply_eq (gs : Grammars) (n : Node) :
    gs.foldl (fun n g => g.apply n) n = Grammar.carryOut (assigned gs n.value) n := by
  induction gs generalizing n with
  | nil => rfl
  | cons g gs ih =>
    rw [List.foldl_cons, ih, g.apply_eq_carryOut, Grammar.value_carryOut, assigned,
      Grammar.carryOut_append]

end Grammars

end Marginalia
