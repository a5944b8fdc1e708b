import Marginalia.Proofs.Grammar.Assignments

/-!
# What grammars leave alone

A grammar changes a node through assignments to fields only, and the fields that occur in its rules
at any depth are its *targets*: all that it assigns goes to them (`Rules.field_mem_targets`). What
no assignment to a target changes is the same after all grammars of a task (`Grammars.apply_same`).

The marks of a node and its role are of this kind (`Field.marks_assign`): they come from the
notation of the line alone. So is every field that is not a target (`Grammars.read_apply`);
`Field.read` is what a field holds.
-/

namespace Marginalia

/-- What the notation of a line says of its node, apart from the fields with a name. -/
def Node.marks (n : Node) : Bool × Bool × Bool × Bool × Role :=
  (n.configuration, n.appending, n.collapsing, n.newline, n.role)

namespace Grammar

@[simp] theorem Field.marks_assign (field : Field) (n : Node) (text : Text) :
    (field.assign n text).marks = n.marks := by
  cases field <;> rfl

/-! ### Fields -/

/-- What a field of a node holds. -/
inductive Content where
  | text (t : Text)
  | integer (i : Int)
  | number (n : Nat)
  | truth (b : Bool)
  | texts (ts : List Text)
deriving DecidableEq, Repr

/-- What the node holds in the field. -/
def Field.read (field : Field) (n : Node) : Content :=
  match field with
  | value => .text n.value
  | keyword => .text n.keyword
  | index => .integer n.index
  | line => .number n.line
  | parent => .number n.parent
  | separator => .truth n.separator
  | flags => .texts n.flags

/-- What a field holds after a text was assigned to it does not depend on the node. -/
theorem Field.read_assign_self (field : Field) (n n' : Node) (text : Text) :
    field.read (field.assign n text) = field.read (field.assign n' text) := by
  cases field <;> rfl

theorem Field.read_assign_of_ne {field field' : Field} (h : field' ≠ field) (n : Node)
    (text : Text) : field.read (field'.assign n text) = field.read n := by
  cases field <;> cases field' <;> first | rfl | exact absurd rfl h

/-! ### Targets -/

mutual

/-- The fields that the rules set, at any depth. -/
def Rules.targets {P : Type} : Rules P → List Field
  | .nil => []
  | .cons _ actions rest => actions.targets ++ rest.targets

/-- The fields that the actions set, at any depth. -/
def Actions.targets {P : Type} : Actions P → List Field
  | .nil => []
  | .assign _ targets rest => targets.map Prod.fst ++ rest.targets
  | .refine _ rules rest => rules.targets ++ rest.targets

end

mutual

/-- Rules assign to their targets only. -/
theorem Rules.field_mem_targets (rules : Rules Pattern) (level : Nat) (source : Text) :
    ∀ a ∈ rules.assignments level source, a.field ∈ rules.targets := by
  cases rules with
  | nil => simp [Rules.assignments]
  | cons pattern actions rest =>
    rw [Rules.assignments, Rules.targets, List.forall_mem_append]
    refine ⟨fun a ha => List.mem_append_left _ ?_, fun a ha => List.mem_append_right _ ?_⟩
    · cases hm : pattern.match? source with
      | none => simp [hm] at ha
      | some captures =>
        rw [hm] at ha
        exact Actions.field_mem_targets actions level captures a ha
    · exact Rules.field_mem_targets rest level source a ha

theorem Actions.field_mem_targets (actions : Actions Pattern) (level : Nat) (captures : Captures) :
    ∀ a ∈ actions.assignments level captures, a.field ∈ actions.targets := by
  cases actions with
  | nil => simp [Actions.assignments]
  | assign name targets rest =>
    rw [Actions.assignments, Actions.targets, List.forall_mem_append, List.forall_mem_map]
    refine ⟨fun target ht => List.mem_append_left _ (List.mem_map_of_mem ht), fun a ha => ?_⟩
    exact List.mem_append_right _ (Actions.field_mem_targets rest level captures a ha)
  | refine name rules rest =>
    rw [Actions.assignments, Actions.targets, List.forall_mem_append]
    refine ⟨fun a ha => List.mem_append_left _ ?_, fun a ha => List.mem_append_right _ ?_⟩
    · cases hc : captures.text? name with
      | none => simp [hc] at ha
      | some text =>
        rw [hc] at ha
        dsimp only at ha
        split_ifs at ha
        · cases ha
        · exact Rules.field_mem_targets rules (level + 1) text a ha
    · exact Actions.field_mem_targets rest level captures a ha

end

theorem Rules.field_mem_targets_of_assigned : ∀ (rules : Rules Pattern) (value : Text),
    ∀ a ∈ rules.assigned value, a.field ∈ rules.targets
  | .nil, value => by simp [Rules.assigned]
  | .cons pattern actions rest, value => by
    rw [Rules.assigned, Rules.targets, List.forall_mem_append]
    refine ⟨fun a ha => List.mem_append_left _ ?_, fun a ha => List.mem_append_right _ ?_⟩
    · cases hm : pattern.match? value with
      | none => simp [hm] at ha
      | some captures =>
        rw [hm] at ha
        exact Actions.field_mem_targets actions 0 captures a (List.mem_of_mem_filter ha)
    · exact Rules.field_mem_targets_of_assigned rest _ a ha

section Same

variable {β : Type} {f : Node → β}

/-- An assignment to the field does not change what `f` says of a node. -/
def Field.Keeps (f : Node → β) (field : Field) : Prop :=
  ∀ (n : Node) (text : Text), f (field.assign n text) = f n

theorem carryOut_same {as : List Assignment} (hf : ∀ a ∈ as, a.field.Keeps f) (n : Node) :
    f (carryOut as n) = f n := by
  induction as generalizing n with
  | nil => rfl
  | cons a as ih =>
    rw [List.forall_mem_cons] at hf
    rw [carryOut_cons, ih hf.2, hf.1]

end Same

end Grammar

namespace Grammars

variable {grammars : Grammars} {extension : Text} {n : Node}

theorem apply_of_hasValue_eq_false (h : n.hasValue = false) :
    grammars.apply extension n = n := by
  rw [apply, h, Bool.not_false, Bool.or_true, if_pos rfl]

/-- The fields that some grammar sets. -/
def targets (grammars : Grammars) : List Grammar.Field := grammars.flatMap (·.rules.targets)

theorem field_mem_targets (grammars : Grammars) (value : Text) :
    ∀ a ∈ assigned grammars value, a.field ∈ targets grammars := by
  induction grammars generalizing value with
  | nil => simp [assigned]
  | cons g gs ih =>
    rw [assigned, targets, List.flatMap_cons, List.forall_mem_append]
    exact ⟨fun a ha => List.mem_append_left _ (g.rules.field_mem_targets_of_assigned value a ha),
      fun a ha => List.mem_append_right _ (ih _ a ha)⟩

/-- **Grammars** keep what an assignment to any of their targets keeps. -/
theorem apply_same {β : Type} {f : Node → β}
    (hf : ∀ field ∈ targets grammars, Grammar.Field.Keeps f field) (extension : Text) (n : Node) :
    f (grammars.apply extension n) = f n := by
  unfold apply
  split_ifs
  · rfl
  · rw [foldl_apply_eq]
    refine Grammar.carryOut_same (fun a ha => hf a.field ?_) n
    obtain ⟨g, hg, hfield⟩ := List.mem_flatMap.mp (field_mem_targets _ _ a ha)
    exact List.mem_flatMap.mpr ⟨g, List.mem_of_mem_filter hg, hfield⟩

theorem marks_apply (grammars : Grammars) (extension : Text) (n : Node) :
    (grammars.apply extension n).marks = n.marks :=
  apply_same (fun field _ => Grammar.Field.marks_assign field) extension n

theorem configuration_apply (grammars : Grammars) (extension : Text) (n : Node) :
    (grammars.apply extension n).configuration = n.configuration :=
  congrArg (fun marks => marks.1) (marks_apply grammars extension n)

theorem collapsing_apply (grammars : Grammars) (extension : Text) (n : Node) :
    (grammars.apply extension n).collapsing = n.collapsing :=
  congrArg (fun marks => marks.2.2.1) (marks_apply grammars extension n)

theorem role_apply (grammars : Grammars) (extension : Text) (n : Node) :
    (grammars.apply extension n).role = n.role :=
  congrArg (fun marks => marks.2.2.2.2) (marks_apply grammars extension n)

/-- Grammars keep a field that none of them sets. -/
theorem read_apply {field : Grammar.Field} (h : field ∉ targets grammars) (extension : Text)
    (n : Node) : field.read (grammars.apply extension n) = field.read n :=
  apply_same (f := field.read)
    (fun _ hset => Grammar.Field.read_assign_of_ne fun heq => h (heq ▸ hset)) extension n

theorem line_apply (h : Grammar.Field.line ∉ targets grammars) (extension : Text) (n : Node) :
    (grammars.apply extension n).line = n.line :=
  Grammar.Content.number.inj (read_apply h extension n)

end Grammars

end Marginalia
