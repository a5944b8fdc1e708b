import Marginalia.Grammar.Load
import Marginalia.Proofs.Json.Decode
import Mathlib.Data.List.Lex

/-!
# Grammar files come back from their text

The maps of a grammar file are written in the order of their keys, and in that order they are read
(`Rules.Sorted`). As types of rules and actions refer to one another, so do the two inductions: the
rules of a list are read one by one (`Rules.readsAll_toValues`), and the actions of a rule field by
field (`Actions.readsEntries_toMembers`), where the reader unfolds once for each list of rules and
the nesting of the value is what bounds it.

So a grammar file whose text does not nest too deep comes back from its text in each layout, and the
grammar read from the text is the one that the file compiles to, whatever compiles its patterns
(`GrammarFile.read_written`).
-/

namespace Marginalia

open Json Json.Decoder

namespace Grammar

/-! ### Maps in order -/

mutual

/-- The maps in the rules are in the order of their keys, no key is there twice: the names of the
actions of a rule, and the fields that an action sets. -/
def Rules.Sorted : Rules Text → Prop
  | .nil => True
  | .cons _ actions rest =>
    (actions.toList.map Prod.fst).Pairwise (· < ·) ∧ actions.Sorted ∧ rest.Sorted

/-- The maps inside of the actions are in order. -/
def Actions.Sorted : Actions Text → Prop
  | .nil => True
  | .assign _ targets rest => (targets.map fun t => t.1.rank).Pairwise (· < ·) ∧ rest.Sorted
  | .refine _ rules rest => rules.Sorted ∧ rest.Sorted

end

mutual

/-- The maps of the rules can be checked. -/
def Rules.decidableSorted : (rules : Rules Text) → Decidable rules.Sorted
  | .nil => .isTrue trivial
  | .cons _ actions rest =>
    have := actions.decidableSorted
    have := rest.decidableSorted
    inferInstanceAs (Decidable ((actions.toList.map Prod.fst).Pairwise (· < ·) ∧ actions.Sorted ∧
      rest.Sorted))

/-- The maps inside of the actions can be checked. -/
def Actions.decidableSorted : (actions : Actions Text) → Decidable actions.Sorted
  | .nil => .isTrue trivial
  | .assign _ targets rest =>
    have := rest.decidableSorted
    inferInstanceAs (Decidable ((targets.map fun t => t.1.rank).Pairwise (· < ·) ∧ rest.Sorted))
  | .refine _ rules rest =>
    have := rules.decidableSorted
    have := rest.decidableSorted
    inferInstanceAs (Decidable (rules.Sorted ∧ rest.Sorted))

end

instance (rules : Rules Text) : Decidable rules.Sorted := rules.decidableSorted

/-! ### Rules and actions as lists -/

/-- The list of patterns and actions. -/
def Rules.toList : Rules Text → List (Text × Actions Text)
  | .nil => []
  | .cons pattern actions rest => (pattern, actions) :: rest.toList

theorem Rules.ofList_toList : (rules : Rules Text) → Rules.ofList rules.toList = rules
  | .nil => rfl
  | .cons pattern actions rest => by rw [toList, ofList, ofList_toList rest]

theorem Actions.ofList_toList {P : Type} : (actions : Actions P) → ofList actions.toList = actions
  | .nil => rfl
  | .assign _ _ rest => by rw [toList, ofList, ofList_toList rest]
  | .refine _ _ rest => by rw [toList, ofList, ofList_toList rest]

/-! ### Reading -/

variable {targets : List (Field × Text)} {actions : Actions Text}

theorem reads_targetsToJson (h : (targets.map fun t => t.1.rank).Pairwise (· < ·)) :
    Reads targetsDecoder (targetsToJson targets) targets := by
  have hentries : ReadsEntries fieldOfName Decoder.text
      (.ofList (targets.map fun t => (t.1.name, .string t.2))) targets := by
    clear h
    induction targets with
    | nil => exact .nil
    | cons t targets ih =>
      refine .cons ?_ (reads_text t.2) ih
      rw [fieldOfName, Field.ofName?_name]
  refine reads_map hentries ((List.pairwise_map.mp h).imp fun {t t'} hlt => ⟨?_, ?_⟩)
  · exact fun he => absurd hlt (he ▸ Nat.lt_irrefl _)
  · exact decide_eq_false (Nat.lt_asymm hlt)

/-- Actions are read from fields that are read one by one, if their names are in order. -/
theorem reads_actions {rules : Decoder (Rules Text)} {ms : Members}
    (h : ReadsEntries .ok (actionDecoder rules) ms actions.toList)
    (hs : (actions.toList.map Prod.fst).Pairwise (· < ·)) :
    Reads (actionsDecoder rules) (.object ms) actions := by
  have hsorted : SortedBy (fun a b : Text => a < b) actions.toList := by
    refine (List.pairwise_map.mp hs).imp fun {e e'} hlt => ⟨?_, ?_⟩
    · exact fun he => absurd hlt (he ▸ List.lt_irrefl _)
    · exact decide_eq_false (List.lt_asymm hlt)
  intro depth hd
  rw [actionsDecoder, reads_map h hsorted depth hd, Except.map, Actions.ofList_toList]

theorem reads_ruleToJson {rules : Decoder (Rules Text)} {ms : Members} (pattern : Text)
    (h : Reads (actionsDecoder rules) (.object ms) actions) :
    Reads (ruleDecoder rules) (ruleToJson pattern ms) (pattern, actions) := by
  have hnames : (["pattern", "match"].map String.toList).Nodup := by decide
  refine reads_record hnames ?_
  refine .required (reads_text pattern) ?_
  exact .optional h .nil

theorem levels_ruleToJson (pattern : Text) (ms : Members) :
    (ruleToJson pattern ms).levels = ms.levels + 2 := by
  simp [ruleToJson, Value.ofFields, Members.ofList, Value.levels, Members.levels]

theorem levels_singleton (name : Text) (v : Value) :
    (Value.ofFields [(name, v)]).levels = v.levels + 1 := by
  simp [Value.ofFields, Members.ofList, Value.levels, Members.levels]

/-- Reads a list of rules, given a reader of the lists inside of it. -/
def rulesStep (rules : Decoder (Rules Text)) : Decoder (Rules Text) := fun depth s =>
  (Decoder.list (ruleDecoder rules) depth s).map .ofList

theorem reads_rulesStep {rules : Rules Text} {inner : Decoder (Rules Text)}
    (h : ReadsAll (ruleDecoder inner) rules.toValues rules.toList) :
    Reads (rulesStep inner) (.list rules.toValues) rules := by
  intro depth hd
  rw [rulesStep, reads_list h depth hd, Except.map, Rules.ofList_toList]

mutual

/-- A reader unfolded often enough for the nesting reads every rule of a list. -/
theorem Rules.readsAll_toValues (rules : Rules Text) (hs : rules.Sorted) {n : Nat}
    (hn : rules.toValues.levels ≤ n) :
    ReadsAll (ruleDecoder (nestedWithin rulesStep n)) rules.toValues rules.toList := by
  cases rules with
  | nil => exact .nil
  | cons pattern actions rest =>
    obtain ⟨hnames, hactions, hrest⟩ := hs
    rw [Rules.toValues, Values.levels, levels_ruleToJson] at hn
    have hentries := Actions.readsEntries_toMembers actions hactions (n := n) (by omega)
    exact .cons (reads_ruleToJson pattern (reads_actions hentries hnames))
      (Rules.readsAll_toValues rest hrest (by omega))

/-- A reader unfolded often enough for the nesting reads every action of a rule. -/
theorem Actions.readsEntries_toMembers (actions : Actions Text) (hs : actions.Sorted) {n : Nat}
    (hn : actions.toMembers.levels ≤ n) :
    ReadsEntries .ok (actionDecoder (nestedWithin rulesStep n)) actions.toMembers
      actions.toList := by
  cases actions with
  | nil => exact .nil
  | assign name targets rest =>
    obtain ⟨htargets, hrest⟩ := hs
    rw [Actions.toMembers, Members.levels] at hn
    refine .cons rfl (reads_variant rfl fun depth hd => ?_)
      (Actions.readsEntries_toMembers rest hrest (by omega))
    rw [reads_targetsToJson htargets depth hd, Except.map]
  | refine name rules rest =>
    obtain ⟨hrules, hrest⟩ := hs
    rw [Actions.toMembers, Members.levels, levels_singleton, Value.levels] at hn
    -- The rules below take two levels: that of the action and that of their list.
    obtain ⟨m, rfl⟩ : ∃ m, n = m + 1 := Nat.exists_eq_add_of_le' (by omega)
    refine .cons rfl (reads_variant rfl fun depth hd => ?_)
      (Actions.readsEntries_toMembers rest hrest (by omega))
    have hinner := reads_rulesStep (Rules.readsAll_toValues rules hrules (n := m) (by omega))
    rw [nestedWithin, hinner depth hd, Except.map]

end

/-- **Rules** are read from what is written of them. -/
theorem Rules.reads_toValues {rules : Rules Text} (hs : rules.Sorted) :
    Reads Rules.decoder (.list rules.toValues) rules := by
  intro depth hd
  exact reads_rulesStep (rules.readsAll_toValues hs (Nat.le_of_succ_le hd)) depth hd

mutual

/-- There are only texts in rules. -/
theorem Rules.fits_toValues (rules : Rules Text) : rules.toValues.Fits := by
  cases rules with
  | nil => trivial
  | cons pattern actions rest =>
    exact ⟨⟨trivial, Actions.fits_toMembers actions, trivial⟩, Rules.fits_toValues rest⟩

theorem Actions.fits_toMembers (actions : Actions Text) : actions.toMembers.Fits := by
  cases actions with
  | nil => trivial
  | assign name targets rest =>
    have htargets : (targetsToJson targets).Fits :=
      Members.fits_ofList (List.forall_mem_map.mpr fun _ _ => trivial)
    exact ⟨⟨htargets, trivial⟩, Actions.fits_toMembers rest⟩
  | refine name rules rest =>
    exact ⟨⟨Rules.fits_toValues rules, trivial⟩, Actions.fits_toMembers rest⟩

end

end Grammar

/-! ### Grammar files -/

namespace GrammarFile

variable {g : GrammarFile}

theorem fits_toJson (g : GrammarFile) : g.toJson.Fits :=
  ⟨trivial, trivial, Value.fits_ofTexts g.extensions, g.rules.fits_toValues, trivial⟩

theorem reads_toJson (hs : g.rules.Sorted) : Reads decoder g.toJson g := by
  refine reads_record (by decide) ?_
  refine .optional (reads_text g.name) ?_
  refine .optional (reads_text g.description) ?_
  refine .optional (reads_texts reads_text g.extensions) ?_
  exact .optional (Grammar.Rules.reads_toValues hs) .nil

/-- What is read from a text is compiled. -/
theorem readWith_of_run {ε : Type} (compiler : PatternCompiler ε) {t : Text}
    (h : decoder.run t = .ok g) :
    Grammar.readWith compiler t = (Grammar.compile compiler g).mapError .inr := by
  simp only [Grammar.readWith, h]

/-- **Grammar files come back from their text**: a grammar file whose maps are in order is read from
its text in each of the three layouts, if the text nests fewer than 128 lists and objects. So what
is loaded from the text is the very grammar that the file compiles to, with any compiler of
patterns; if it does not compile, then the same pattern is to blame. -/
theorem read_written (l : Layout) (hl : l ∈ [Layout.compact, .spaces, .tabs]) (g : GrammarFile)
    (hs : g.rules.Sorted) (hlevels : g.toJson.levels < 128) :
    decoder.run (g.toJson.write l) = .ok g ∧
      (∀ {ε : Type} (compiler : PatternCompiler ε),
        (∀ made, Grammar.readWith compiler (g.toJson.write l) = .ok made ↔
          Grammar.compile compiler g = .ok made) ∧
        ∀ bad, Grammar.readWith compiler (g.toJson.write l) = .error (.inr bad) ↔
          Grammar.compile compiler g = .error bad) ∧
      (∀ made, Grammar.read (g.toJson.write l) = .ok made ↔
        Grammar.compile Regex.compile g = .ok made) ∧
      ∀ bad, Grammar.compile Regex.compile g = .error bad →
        Grammar.read (g.toJson.write l) = .error (.pattern bad.pattern bad.reason) := by
  have hrun : decoder.run (g.toJson.write l) = .ok g :=
    run_write (Layout.spaced_of_mem hl) g.fits_toJson (Nat.le_of_lt_succ hlevels) (reads_toJson hs)
  refine ⟨hrun, fun compiler => ⟨fun made => ?_, fun bad => ?_⟩, fun made => ?_, fun bad hbad => ?_⟩
  · rw [readWith_of_run compiler hrun]
    cases Grammar.compile compiler g <;> simp [Except.mapError]
  · rw [readWith_of_run compiler hrun]
    cases Grammar.compile compiler g <;> simp [Except.mapError]
  · rw [Grammar.read, readWith_of_run _ hrun]
    cases Grammar.compile Regex.compile g <;> simp [Except.mapError]
  · rw [Grammar.read, readWith_of_run _ hrun, hbad]
    rfl

/-- Rules inside of rules, two names in order, two fields in order, and characters to escape. The
compiler blames the last pattern, as it does without the detour over the text. -/
theorem read_written_nested :
    let inner : Grammar.Rules Text := .cons "(?P<x>.)".toList
      (.assign "x".toList [(.keyword, "\"\\\t\u0001\u00fc".toList), (.flags, [])] .nil) .nil
    let g : GrammarFile :=
      { name := "a".toList, extensions := [".c".toList, []]
        rules := .cons "(?P<a>b)(?P<c>d)".toList
          (.assign "a".toList [] (.refine "c".toList inner .nil)) (.cons "(".toList .nil .nil) }
    let compiler : PatternCompiler Unit := fun text =>
      if text = ['('] then .error () else .ok ⟨[], fun _ => none⟩
    Layout.tabs ∈ [Layout.compact, .spaces, .tabs] ∧ g.rules.Sorted ∧ g.toJson.levels = 10 ∧
      decoder.run (g.toJson.write .tabs) = .ok g ∧
      Grammar.readWith compiler (g.toJson.write .tabs) = .error (.inr ⟨['('], ()⟩) := by
  intro inner g compiler
  have hl : Layout.tabs ∈ [Layout.compact, .spaces, .tabs] := by decide
  have hs : g.rules.Sorted := by decide +kernel
  have hlevels : g.toJson.levels = 10 := by decide +kernel
  have hbad : Grammar.compile compiler g = .error ⟨['('], ()⟩ := rfl
  obtain ⟨hrun, hread, -⟩ := read_written .tabs hl g hs (hlevels ▸ by decide)
  exact ⟨hl, hs, hlevels, hrun, ((hread compiler).2 _).mpr hbad⟩

end GrammarFile

end Marginalia
