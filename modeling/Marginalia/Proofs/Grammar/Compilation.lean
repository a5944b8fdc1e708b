import Marginalia.Grammar
import Mathlib.Data.List.Basic
import Mathlib.Tactic.SplitIfs

/-!
# Which patterns have to compile

Not every pattern of a grammar is compiled: further rules under a name count only where the pattern
above them has a group of that name. `Rules.Reaches` says which patterns count, and
`Rules.patterns` lists them in order: rule by rule, the pattern of a rule before the rules below it,
and these in the order of the groups.

Compiling reports the first pattern of that list that does not compile, if there is one
(`Rules.fault_compile`). Actions under other names can be deleted (`Rules.prune`), and the outcome
is the same (`Rules.compile_prune`). `compile_exact` says all this of a grammar.
-/

namespace Marginalia.Grammar

variable {ε α : Type} (compiler : PatternCompiler ε)

/-! ### Patterns that count -/

/-- The text is a pattern. -/
def Compiles (text : Text) : Prop := ∃ pattern, compiler text = .ok pattern

/-- The names of the groups of a pattern. A text that is no pattern has none. -/
def groupNames (text : Text) : List Text :=
  match compiler text with
  | .ok pattern => pattern.names
  | .error _ => []

/-- The pattern is that of one of the rules, or of further rules, at any depth, each under the name
of a group of the pattern above. -/
inductive Rules.Reaches : Rules Text → Text → Prop
  | own (text : Text) (actions : Actions Text) (rest : Rules Text) :
    Reaches (.cons text actions rest) text
  | under {text name p : Text} {actions : Actions Text} {rules : Rules Text} (rest : Rules Text)
    (hname : name ∈ groupNames compiler text)
    (haction : actions.toList.lookup name = some (.refine rules)) (h : Reaches rules p) :
    Reaches (.cons text actions rest) p
  | later {p : Text} {rest : Rules Text} (text : Text) (actions : Actions Text)
    (h : Reaches rest p) : Reaches (.cons text actions rest) p

mutual

/-- The patterns that count, in order. -/
def Rules.patterns : Rules Text → List Text
  | .nil => []
  | .cons text actions rest =>
    text :: ((groupNames compiler text).flatMap (fun name =>
      (actions.patternsEach.lookup name).getD []) ++ rest.patterns)

/-- The patterns below each action. -/
def Actions.patternsEach : Actions Text → List (Text × List Text)
  | .nil => []
  | .assign name _ rest => (name, []) :: rest.patternsEach
  | .refine name rules rest => (name, rules.patterns) :: rest.patternsEach

end

mutual

/-- The patterns listed are those that count. -/
theorem Rules.mem_patterns_iff (rules : Rules Text) (p : Text) :
    p ∈ rules.patterns compiler ↔ rules.Reaches compiler p := by
  cases rules with
  | nil =>
    rw [Rules.patterns]
    exact ⟨fun h => absurd h List.not_mem_nil, fun h => nomatch h⟩
  | cons text actions rest =>
    rw [Rules.patterns, List.mem_cons, List.mem_append, List.mem_flatMap,
      Rules.mem_patterns_iff rest]
    constructor
    · rintro (rfl | ⟨name, hname, hp⟩ | h)
      · exact .own _ _ _
      · obtain ⟨rules, haction, h⟩ := (Actions.mem_patternsEach_iff actions name p).mp hp
        exact .under rest hname haction h
      · exact .later text actions h
    · intro h
      cases h with
      | own => exact .inl rfl
      | under _ hname haction h =>
        exact .inr (.inl ⟨_, hname, (Actions.mem_patternsEach_iff actions _ p).mpr ⟨_, haction, h⟩⟩)
      | later _ _ h => exact .inr (.inr h)

theorem Actions.mem_patternsEach_iff (actions : Actions Text) (name p : Text) :
    p ∈ ((actions.patternsEach compiler).lookup name).getD [] ↔
      ∃ rules, actions.toList.lookup name = some (.refine rules) ∧ rules.Reaches compiler p := by
  cases actions with
  | nil => simp [Actions.patternsEach, Actions.toList]
  | assign other targets rest =>
    rw [Actions.patternsEach, Actions.toList, List.lookup_cons, List.lookup_cons]
    cases name == other with
    | true => simp
    | false => exact Actions.mem_patternsEach_iff rest name p
  | refine other rules rest =>
    rw [Actions.patternsEach, Actions.toList, List.lookup_cons, List.lookup_cons]
    cases name == other with
    | true => simpa using Rules.mem_patterns_iff rules p
    | false => exact Actions.mem_patternsEach_iff rest name p

end

/-! ### The first fault -/

/-- What went wrong, if anything did. -/
def fault : Except ε α → Option ε
  | .ok _ => none
  | .error e => some e

/-- What is wrong with a pattern, if anything is. -/
def flaw? (text : Text) : Option (BadPattern ε) := (fault (compiler text)).map (⟨text, ·⟩)

theorem fault_eq_some_iff {r : Except ε α} {e : ε} : fault r = some e ↔ r = .error e := by
  cases r <;> simp [fault]

theorem fault_eq_none_iff {r : Except ε α} : fault r = none ↔ ∃ a, r = .ok a := by
  cases r <;> simp [fault]

theorem flaw?_eq_none_iff {text : Text} : flaw? compiler text = none ↔ Compiles compiler text := by
  rw [flaw?, Option.map_eq_none_iff, fault_eq_none_iff, Compiles]

theorem flaw?_eq_some_iff {text : Text} {b : BadPattern ε} :
    flaw? compiler text = some b ↔ text = b.pattern ∧ compiler text = .error b.reason := by
  rw [flaw?, Option.map_eq_some_iff]
  constructor
  · rintro ⟨e, he, rfl⟩
    exact ⟨rfl, fault_eq_some_iff.mp he⟩
  · rintro ⟨rfl, h⟩
    exact ⟨b.reason, fault_eq_some_iff.mpr h, rfl⟩

theorem findSome?_flatMap {β γ : Type} (f : β → List γ) (g : γ → Option α) (l : List β) :
    (l.flatMap f).findSome? g = l.findSome? fun a => (f a).findSome? g := by
  induction l with
  | nil => rfl
  | cons a l ih =>
    rw [List.flatMap_cons, List.findSome?_append, ih, List.findSome?_cons]
    cases (f a).findSome? g <;> rfl

/-- Of the actions that are collected, the first that failed is the fault. -/
theorem fault_collect (compiled : List (Text × Except ε (Action Pattern))) (names : List Text) :
    fault (collect compiled names) =
      names.findSome? fun name => (compiled.lookup name).bind fault := by
  induction names with
  | nil => rfl
  | cons name names ih =>
    rw [collect, List.findSome?_cons, ← ih]
    cases compiled.lookup name with
    | none => rfl
    | some r =>
      cases r with
      | error e => rfl
      | ok action =>
        cases collect compiled names with
        | error e => rfl
        | ok rest => cases action <;> rfl

mutual

/-- The fault of rules is the flaw of the first pattern that has one. -/
theorem Rules.fault_compile (rules : Rules Text) :
    fault (rules.compile compiler) = (rules.patterns compiler).findSome? (flaw? compiler) := by
  cases rules with
  | nil => rfl
  | cons text actions rest =>
    rw [Rules.compile, Rules.patterns, List.findSome?_cons, flaw?, List.findSome?_append,
      findSome?_flatMap, ← Rules.fault_compile rest, groupNames]
    cases compiler text with
    | error e => rfl
    | ok pattern =>
      have hbelow := fault_collect (actions.compileEach compiler) pattern.names
      simp only [Actions.fault_compileEach actions] at hbelow
      dsimp only [fault, Option.map_none]
      rw [← hbelow]
      cases collect (actions.compileEach compiler) pattern.names with
      | error e => rfl
      | ok actions => cases rest.compile compiler <;> rfl

theorem Actions.fault_compileEach (actions : Actions Text) (name : Text) :
    ((actions.compileEach compiler).lookup name).bind fault =
      (((actions.patternsEach compiler).lookup name).getD []).findSome? (flaw? compiler) := by
  cases actions with
  | nil => rfl
  | assign other targets rest =>
    rw [Actions.compileEach, Actions.patternsEach, List.lookup_cons, List.lookup_cons]
    cases name == other with
    | true => rfl
    | false => exact Actions.fault_compileEach rest name
  | refine other rules rest =>
    rw [Actions.compileEach, Actions.patternsEach, List.lookup_cons, List.lookup_cons]
    cases name == other with
    | true =>
      have hrules := Rules.fault_compile rules
      dsimp only [Option.bind_some, Option.getD_some]
      rw [← hrules]
      cases rules.compile compiler <;> rfl
    | false => exact Actions.fault_compileEach rest name

end

/-! ### Actions under other names -/

mutual

/-- The rules without the actions whose name is not that of a group of their pattern. -/
def Rules.prune : Rules Text → Rules Text
  | .nil => .nil
  | .cons text actions rest =>
    .cons text (actions.prune (groupNames compiler text)) rest.prune

/-- The actions under some names, without such actions in further rules. -/
def Actions.prune (names : List Text) : Actions Text → Actions Text
  | .nil => .nil
  | .assign name targets rest =>
    if name ∈ names then .assign name targets (rest.prune names) else rest.prune names
  | .refine name rules rest =>
    if name ∈ names then .refine name rules.prune (rest.prune names) else rest.prune names

end

theorem collect_congr {compiled compiled' : List (Text × Except ε (Action Pattern))}
    {names : List Text} (h : ∀ name ∈ names, compiled.lookup name = compiled'.lookup name) :
    collect compiled names = collect compiled' names := by
  induction names with
  | nil => rfl
  | cons name names ih =>
    rw [List.forall_mem_cons] at h
    rw [collect, collect, h.1, ih h.2]

mutual

theorem Rules.compile_prune (rules : Rules Text) :
    (rules.prune compiler).compile compiler = rules.compile compiler := by
  cases rules with
  | nil => rfl
  | cons text actions rest =>
    rw [Rules.prune, Rules.compile, Rules.compile, Rules.compile_prune rest, groupNames]
    cases compiler text with
    | error e => rfl
    | ok pattern =>
      have hcollect := collect_congr (Actions.lookup_compileEach_prune actions pattern.names)
      dsimp only
      rw [hcollect]

/-- Under the names themselves nothing changes. -/
theorem Actions.lookup_compileEach_prune (actions : Actions Text) (names : List Text) :
    ∀ name ∈ names, ((actions.prune compiler names).compileEach compiler).lookup name =
      (actions.compileEach compiler).lookup name := by
  intro name hname
  cases actions with
  | nil => rfl
  | assign other targets rest =>
    have ih := Actions.lookup_compileEach_prune rest names name hname
    rw [Actions.prune, Actions.compileEach, List.lookup_cons]
    split_ifs with hother
    · rw [Actions.compileEach, List.lookup_cons, ih]
    · rw [ih, beq_false_of_ne fun h : name = other => hother (h ▸ hname)]
  | refine other rules rest =>
    have ih := Actions.lookup_compileEach_prune rest names name hname
    rw [Actions.prune, Actions.compileEach, List.lookup_cons]
    split_ifs with hother
    · rw [Actions.compileEach, List.lookup_cons, ih, Rules.compile_prune rules]
    · rw [ih, beq_false_of_ne fun h : name = other => hother (h ▸ hname)]

end

/-! ### Grammars -/

theorem fault_compile (file : GrammarFile) :
    fault (compile compiler file) =
      (file.rules.patterns compiler).findSome? (flaw? compiler) := by
  rw [← Rules.fault_compile, compile]
  cases file.rules.compile compiler <;> rfl

/-- **Compiling a grammar** fails exactly when a pattern that counts does not compile, and reports
the first of these in the order of the rules, with the rules below a rule in the order of its
groups. Without the actions whose name is not that of a group, at any depth, the outcome is the
same. -/
theorem compile_exact (file : GrammarFile) :
    ((∃ g, compile compiler file = .ok g) ↔
        ∀ p, file.rules.Reaches compiler p → Compiles compiler p) ∧
      (∀ p, p ∈ file.rules.patterns compiler ↔ file.rules.Reaches compiler p) ∧
      (∀ b, compile compiler file = .error b ↔
        ∃ before after, file.rules.patterns compiler = before ++ b.pattern :: after ∧
          (∀ p ∈ before, Compiles compiler p) ∧ compiler b.pattern = .error b.reason) ∧
      compile compiler { file with rules := file.rules.prune compiler } =
        compile compiler file := by
  have hmem := file.rules.mem_patterns_iff compiler
  refine ⟨?_, hmem, fun b => ?_, ?_⟩
  · rw [← fault_eq_none_iff, fault_compile, List.findSome?_eq_none_iff]
    exact ⟨fun h p hp => (flaw?_eq_none_iff compiler).mp (h p ((hmem p).mpr hp)),
      fun h p hp => (flaw?_eq_none_iff compiler).mpr (h p ((hmem p).mp hp))⟩
  · rw [← fault_eq_some_iff, fault_compile, List.findSome?_eq_some_iff]
    simp only [flaw?_eq_none_iff, flaw?_eq_some_iff]
    constructor
    · rintro ⟨before, p, after, heq, ⟨rfl, hb⟩, hbefore⟩
      exact ⟨before, after, heq, hbefore, hb⟩
    · rintro ⟨before, after, heq, hbefore, hb⟩
      exact ⟨before, b.pattern, after, heq, ⟨rfl, hb⟩, hbefore⟩
  · rw [compile, compile, Rules.compile_prune]

/-- Patterns without a parenthesis compile, and their letters are the groups. The group `b` is the
first one, so what stands under it is reported, although it is written after what is under `a`. -/
example :
    let compiler : PatternCompiler Unit := fun text =>
      if '(' ∈ text then .error () else .ok ⟨text.map ([·]), fun _ => none⟩
    let single : Text → Rules Text := fun text => .cons text .nil .nil
    let actions : Actions Text := .ofList [("c".toList, .refine (single "c(".toList)),
      ("a".toList, .refine (single "a(".toList)), ("b".toList, .refine (single "b(".toList))]
    fault (compile compiler { rules := .cons "ba".toList actions (single "(".toList) }) =
      some ⟨"b(".toList, ()⟩ := by
  decide +kernel

end Marginalia.Grammar
