import Marginalia.Filter
import Marginalia.Proofs.Tree.Built

/-!
# What the filters let pass

A task refuses a file for the first of four reasons (`Task.assemble_filters`): no keyword asked for
occurs in the tree; a refused keyword occurs, and the first such entry of the task is named; an
annotation about the file is not among those allowed, or is refused, and the first such annotation
of the file is named. A file that passes gives a document in which no entry at any depth has a
refused keyword, for collapsing and copying bring in no keyword that was not in the tree.

All of this holds of any tree that can be built, not only of those that come from a file.
-/

namespace Marginalia

/-! ### First entries -/

/-- `a` is in the list with the property, and nothing before it has the property. -/
def FirstWith {α : Type} (P : α → Prop) (as : List α) (a : α) : Prop :=
  ∃ before after, as = before ++ a :: after ∧ P a ∧ ∀ b ∈ before, ¬ P b

section First

variable {α : Type} {P : α → Prop} {p : α → Bool} {as : List α} {a : α}

theorem find?_eq_some_iff_firstWith (hp : ∀ b, p b = true ↔ P b) :
    as.find? p = some a ↔ FirstWith P as a := by
  rw [List.find?_eq_some_iff_append]
  constructor
  · rintro ⟨ha, before, after, hsplit, hbefore⟩
    refine ⟨before, after, hsplit, (hp a).mp ha, fun b hb hPb => ?_⟩
    have := hbefore b hb
    rw [(hp b).mpr hPb] at this
    cases this
  · rintro ⟨before, after, hsplit, ha, hbefore⟩
    refine ⟨(hp a).mpr ha, before, after, hsplit, fun b hb => ?_⟩
    rw [Bool.not_eq_true', ← Bool.not_eq_true, hp b]
    exact hbefore b hb

theorem find?_eq_none_iff_forall (hp : ∀ b, p b = true ↔ P b) :
    as.find? p = none ↔ ∀ a ∈ as, ¬ P a := by
  simp only [List.find?_eq_none, hp]

end First

/-! ### Keywords of a tree -/

namespace Tree

variable {t : Tree} {k : Text} {keywords : List Text}

/-- The keyword is not empty, and some node below the root has it, at any depth. -/
def Bears (t : Tree) (k : Text) : Prop :=
  k ≠ [] ∧ ∃ id, id ≠ root ∧ t.Reaches root id ∧ (t.get id).keyword = k

theorem bears_iff (h : t.Built) (k : Text) :
    decide ((!k.isEmpty) = true ∧
      ((t.descendants root).any fun id => (t.get id).keyword == k) = true) = true ↔ t.Bears k := by
  simp only [decide_eq_true_eq, Bool.not_eq_true', List.isEmpty_eq_false_iff, List.any_eq_true,
    beq_iff_eq, mem_descendants_iff_reaches h.hung, Bears, and_assoc]

theorem findKeyword_eq_some_iff (h : t.Built) :
    t.findKeyword keywords = some k ↔ FirstWith t.Bears keywords k := by
  rw [findKeyword, List.find?_filter]
  exact find?_eq_some_iff_firstWith (bears_iff h)

theorem findKeyword_eq_none_iff (h : t.Built) :
    t.findKeyword keywords = none ↔ ∀ k ∈ keywords, ¬ t.Bears k := by
  rw [findKeyword, List.find?_filter]
  exact find?_eq_none_iff_forall (bears_iff h)

/-- The nodes of a collapsed tree have keywords of the tree. -/
theorem bears_of_mem_forest_collapse (h : t.Built) {n : Node}
    (hn : n ∈ t.collapse.forest.flatten) (hk : n.keyword ≠ []) : t.Bears n.keyword := by
  rw [forest, forestBelow, Forest.flatten_map, ← descendants_eq_flatten h.collapse.hung,
    List.mem_map] at hn
  obtain ⟨x, hx, rfl⟩ := hn
  obtain ⟨hne, hreach⟩ := (mem_descendants_iff_reaches h.hung).mp (mem_descendants_of_collapse h hx)
  exact ⟨hk, x, hne, hreach, (keyword_collapse t x).symm⟩

end Tree

theorem Forest.flatten_ofNodes {α : Type} (as : List α) : (ofNodes as).flatten = as := by
  induction as with
  | nil => rfl
  | cons a as ih =>
    rw [ofNodes, List.map_cons, ofList, ← ofNodes, flatten, ih]
    rfl

/-! ### The demands of a task -/

namespace Task

variable {task : Task} {t : Tree} {configuration : List Node} {p : Parsed} {timestamp : Text}

/-- Keywords are asked for, and none of them occurs. -/
def MissesKeyword (task : Task) (t : Tree) : Prop :=
  task.keywords.included ≠ [] ∧ ∀ k ∈ task.keywords.included, ¬ t.Bears k

/-- Annotations about the file are listed as allowed, and this one is not among them. -/
def Disallows (task : Task) (n : Node) : Prop :=
  task.configuration.included ≠ [] ∧ n.keyword ∉ task.configuration.included

/-- The annotation about the file is refused. -/
def Refuses (task : Task) (n : Node) : Prop := n.keyword ∈ task.configuration.excluded

theorem missesKeyword_iff (h : t.Built) :
    (!task.keywords.included.isEmpty && (t.findKeyword task.keywords.included).isNone) = true ↔
      task.MissesKeyword t := by
  rw [Bool.and_eq_true, Bool.not_eq_true', List.isEmpty_eq_false_iff, Option.isNone_iff_eq_none,
    Tree.findKeyword_eq_none_iff h, MissesKeyword]

theorem disallows_iff (n : Node) :
    (!task.configuration.included.isEmpty && !task.configuration.included.contains n.keyword) =
      true ↔ task.Disallows n := by
  simp [Disallows]

theorem refuses_iff (n : Node) :
    task.configuration.excluded.contains n.keyword = true ↔ task.Refuses n := by
  simp [Refuses]

/-- Of four findings the first one counts. -/
theorem first_finding (missing : Bool) (keyword : Option Text) (unknown refused : Option Node) :
    let v : Option Violation :=
      if missing then some .noKeyword
      else keyword.map .refusedKeyword <|>
        (unknown.map fun n => .unknownConfiguration n.keyword) <|>
        (refused.map fun n => .refusedConfiguration n.keyword)
    (v = some .noKeyword ↔ missing = true) ∧
      (∀ k, v = some (.refusedKeyword k) ↔ missing = false ∧ keyword = some k) ∧
      (∀ k, v = some (.unknownConfiguration k) ↔
        missing = false ∧ keyword = none ∧ ∃ n, unknown = some n ∧ n.keyword = k) ∧
      (∀ k, v = some (.refusedConfiguration k) ↔
        missing = false ∧ keyword = none ∧ unknown = none ∧ ∃ n, refused = some n ∧ n.keyword = k) ∧
      (v = none ↔ missing = false ∧ keyword = none ∧ unknown = none ∧ refused = none) := by
  cases missing <;> cases keyword <;> cases unknown <;> cases refused <;> simp

theorem assemble_eq_error_iff (v : Violation) :
    task.assemble timestamp p = .error v ↔ task.violation? p.tree p.configuration = some v := by
  rw [assemble]
  cases task.violation? p.tree p.configuration <;> simp

theorem assemble_eq_ok_iff (d : Document) :
    task.assemble timestamp p = .ok d ↔ task.violation? p.tree p.configuration = none ∧
      .ofTree (.ofPath p.path timestamp) p.tree.collapse p.configuration = d := by
  rw [assemble]
  cases task.violation? p.tree p.configuration <;> simp

/-- **Filters**: a file is refused because no keyword asked for occurs; otherwise for the first
refused keyword of the task that occurs; otherwise for its first annotation that is not allowed;
otherwise for its first annotation that is refused. If there is none of these, there is a document:
no entry of its tree has a refused keyword, and its annotations about the file are those of the
file, all of them allowed and none refused. -/
theorem assemble_filters (task : Task) (timestamp : Text) (p : Parsed) (hp : p.tree.Built) :
    let r := task.assemble timestamp p
    let refused := task.keywords.excluded
    (r = .error .noKeyword ↔ task.MissesKeyword p.tree) ∧
      (∀ k, r = .error (.refusedKeyword k) ↔
        ¬ task.MissesKeyword p.tree ∧ FirstWith p.tree.Bears refused k) ∧
      (∀ k, r = .error (.unknownConfiguration k) ↔
        ¬ task.MissesKeyword p.tree ∧ (∀ j ∈ refused, ¬ p.tree.Bears j) ∧
          ∃ n, FirstWith task.Disallows p.configuration n ∧ n.keyword = k) ∧
      (∀ k, r = .error (.refusedConfiguration k) ↔
        ¬ task.MissesKeyword p.tree ∧ (∀ j ∈ refused, ¬ p.tree.Bears j) ∧
          (∀ n ∈ p.configuration, ¬ task.Disallows n) ∧
          ∃ n, FirstWith task.Refuses p.configuration n ∧ n.keyword = k) ∧
      ((∃ d, r = .ok d) ↔
        ¬ task.MissesKeyword p.tree ∧ (∀ j ∈ refused, ¬ p.tree.Bears j) ∧
          (∀ n ∈ p.configuration, ¬ task.Disallows n) ∧
          ∀ n ∈ p.configuration, ¬ task.Refuses n) ∧
      ∀ d, r = .ok d →
        (∀ e ∈ d.data.flatten, e.keyword ≠ [] → e.keyword ∉ refused) ∧
          d.configuration.flatten = p.configuration.map Entry.ofNode ∧
          ∀ e ∈ d.configuration.flatten,
            (task.configuration.included ≠ [] → e.keyword ∈ task.configuration.included) ∧
              e.keyword ∉ task.configuration.excluded := by
  intro r refused
  obtain ⟨hmissing, hkeyword, hunknown, hrefused, hnone⟩ := first_finding
    (!task.keywords.included.isEmpty && (p.tree.findKeyword task.keywords.included).isNone)
    (p.tree.findKeyword refused)
    (p.configuration.find? fun n => !task.configuration.included.isEmpty &&
      !task.configuration.included.contains n.keyword)
    (p.configuration.find? fun n => task.configuration.excluded.contains n.keyword)
  simp only [← Bool.not_eq_true, missesKeyword_iff hp, Tree.findKeyword_eq_some_iff hp,
    Tree.findKeyword_eq_none_iff hp, find?_eq_some_iff_firstWith disallows_iff,
    find?_eq_none_iff_forall disallows_iff, find?_eq_some_iff_firstWith refuses_iff,
    find?_eq_none_iff_forall refuses_iff] at hmissing hkeyword hunknown hrefused hnone
  have hok : ∀ d, r = .ok d ↔ _ := assemble_eq_ok_iff
  refine ⟨(assemble_eq_error_iff _).trans hmissing,
    fun k => (assemble_eq_error_iff _).trans (hkeyword k),
    fun k => (assemble_eq_error_iff _).trans (hunknown k),
    fun k => (assemble_eq_error_iff _).trans (hrefused k), ?_, fun d hd => ?_⟩
  · refine Iff.trans ⟨?_, fun h => ?_⟩ hnone
    · rintro ⟨d, hd⟩
      exact ((hok d).mp hd).1
    · exact ⟨_, (hok _).mpr ⟨h, rfl⟩⟩
  · obtain ⟨hpass, rfl⟩ := (hok d).mp hd
    obtain ⟨-, hfree, hallowed, hkept⟩ := hnone.mp hpass
    refine ⟨fun e he hk hmem => ?_, Forest.flatten_ofNodes _, fun e he => ?_⟩
    · rw [Document.ofTree, Forest.flatten_map, List.mem_map] at he
      obtain ⟨n, hn, rfl⟩ := he
      exact hfree n.keyword hmem (Tree.bears_of_mem_forest_collapse hp hn hk)
    · rw [Document.ofTree, Forest.flatten_ofNodes, List.mem_map] at he
      obtain ⟨n, hn, rfl⟩ := he
      exact ⟨fun hlisted => not_not.mp fun hnot => hallowed n hn ⟨hlisted, hnot⟩, hkept n hn⟩

/-- The first refused keyword of the list is named, though another one comes first in the tree. An
empty entry does not count, nor does a node that was taken away. -/
theorem assemble_filters_order :
    let t := ((((Tree.empty.insert { keyword := "b".toList }).insert
      { index := 1, keyword := "c".toList }).insert { keyword := "d".toList }).insert
      { index := 1, keyword := "a".toList }).clearChildren 1
    let task : Task :=
      { keywords :=
        { included := ["c".toList, "d".toList]
          excluded := [[], "c".toList, "a".toList, "b".toList] } }
    t.Built ∧ task.assemble [] { tree := t } = .error (.refusedKeyword "a".toList) ∧
      ¬ task.MissesKeyword t ∧ FirstWith t.Bears task.keywords.excluded "a".toList := by
  intro t task
  have ht : t.Built := ((((Tree.Built.empty.insert _).insert _).insert _).insert _).clearChildren 1
  have hr : task.assemble [] { tree := t } = .error (.refusedKeyword "a".toList) := by
    decide +kernel
  exact ⟨ht, hr, ((assemble_filters task [] { tree := t } ht).2.1 _).mp hr⟩

end Task

end Marginalia
