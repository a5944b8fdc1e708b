import Marginalia.Proofs.Path.Components
import Mathlib.Data.List.Induction
import Mathlib.Logic.Relation

/-!
# Where documents go

A path is *simplified* in single steps, in any order: roots and dots are dropped, two dots take back
the name directly before them, and two dots with nothing before them vanish (`Simplifies`). Whatever
the order of the steps, the same names are left in the end, and they are those that `resolve` finds
(`leaves_iff`).

The document of a source goes below the output directory by these names, with the ending of a
document on the last one. So it is always strictly below the directory, and two sources have the
same document only if they leave the same names (`documentPath_confined`).
-/

namespace Marginalia.Path

variable {n : Text} {ns ms : List Text} {cs cs' : List Component}

/-! ### Simplifying -/

/-- One step of simplifying the components of a path. -/
inductive Simplifies : List Component → List Component → Prop where
  /-- A root is dropped. -/
  | root (as bs : List Component) : Simplifies (as ++ .root :: bs) (as ++ bs)
  /-- A dot is dropped. -/
  | current (as bs : List Component) : Simplifies (as ++ .current :: bs) (as ++ bs)
  /-- Two dots take back the name before them. -/
  | takeBack (as : List Component) (n : Text) (bs : List Component) :
      Simplifies (as ++ .name n :: .parent :: bs) (as ++ bs)
  /-- Two dots with nothing before them vanish. -/
  | vanish (bs : List Component) : Simplifies (.parent :: bs) bs

/-- Simplifying step by step leaves the names. -/
def Leaves (cs : List Component) (ns : List Text) : Prop :=
  Relation.ReflTransGen Simplifies cs (ns.map .name)

theorem Simplifies.append (h : Simplifies cs cs') (c : Component) :
    Simplifies (cs ++ [c]) (cs' ++ [c]) := by
  cases h with
  | root as bs => simpa using Simplifies.root as (bs ++ [c])
  | current as bs => simpa using Simplifies.current as (bs ++ [c])
  | takeBack as n bs => simpa using Simplifies.takeBack as n (bs ++ [c])
  | vanish => exact Simplifies.vanish (cs' ++ [c])

/-- The names after one more component. -/
theorem resolve_concat (cs : List Component) (c : Component) :
    resolve (cs ++ [c]) =
      match c with
      | .name n => resolve cs ++ [n]
      | .parent => (resolve cs).dropLast
      | _ => resolve cs := by
  rw [resolve, List.foldl_concat, resolve]
  cases c with
  | name n => exact List.reverse_cons
  | parent => exact List.dropLast_reverse.symm
  | root | current => rfl

theorem resolve_map_name (ns : List Text) : resolve (ns.map .name) = ns := by
  induction ns using List.reverseRecOn with
  | nil => rfl
  | append_singleton ns n ih => rw [List.map_append, List.map_singleton, resolve_concat, ih]

theorem mem_of_mem_resolve (hn : n ∈ resolve cs) : .name n ∈ cs := by
  induction cs using List.reverseRecOn with
  | nil => cases hn
  | append_singleton cs c ih =>
    rw [List.mem_append]
    rw [resolve_concat] at hn
    cases c with
    | name m =>
      rcases List.mem_append.mp hn with hn | hn
      · exact Or.inl (ih hn)
      · rw [List.mem_singleton.mp hn]
        exact Or.inr List.mem_cons_self
    | parent => exact Or.inl (ih (List.dropLast_subset _ hn))
    | root | current => exact Or.inl (ih hn)

/-- A step of simplifying does not change what the whole path leaves. -/
theorem Simplifies.resolve_eq (h : Simplifies cs cs') : resolve cs' = resolve cs := by
  cases h with
  | root | current | takeBack => simp [resolve, walk]
  | vanish => rfl

theorem resolve_eq_of_simplifies (h : Relation.ReflTransGen Simplifies cs cs') :
    resolve cs' = resolve cs := by
  induction h with
  | refl => rfl
  | tail _ hstep ih => rw [hstep.resolve_eq, ih]

/-- What `resolve` finds can be reached by simplifying. -/
theorem leaves_resolve (cs : List Component) : Leaves cs (resolve cs) := by
  induction cs using List.reverseRecOn with
  | nil => exact Relation.ReflTransGen.refl
  | append_singleton cs c ih =>
    have hbefore : Relation.ReflTransGen Simplifies (cs ++ [c]) ((resolve cs).map .name ++ [c]) :=
      Relation.ReflTransGen.lift (· ++ [c]) (fun _ _ hstep => Simplifies.append hstep c) _ _ ih
    rw [Leaves, resolve_concat]
    cases c with
    | name n =>
      rw [List.map_append]
      exact hbefore
    | parent =>
      refine hbefore.tail ?_
      rcases List.eq_nil_or_concat' (resolve cs) with hnil | ⟨init, n, hlast⟩
      · rw [hnil]
        exact Simplifies.vanish []
      · rw [hlast, List.dropLast_concat, List.map_append, List.append_assoc]
        simpa using Simplifies.takeBack (init.map .name) n []
    | root => exact hbefore.tail (by simpa using Simplifies.root ((resolve cs).map .name) [])
    | current => exact hbefore.tail (by simpa using Simplifies.current ((resolve cs).map .name) [])

/-- **Simplifying** ends in the names that `resolve` finds, whatever steps are taken. -/
theorem leaves_iff : Leaves cs ns ↔ resolve cs = ns := by
  constructor
  · intro h
    rw [← resolve_eq_of_simplifies h, resolve_map_name]
  · rintro rfl
    exact leaves_resolve cs

/-! ### Names with an ending -/

/-- The names with the ending of a document on the last one; the ending alone if there are none. -/
def withSuffix : List Text → List Text
  | [] => [documentSuffix]
  | [n] => [n ++ documentSuffix]
  | n :: m :: ns => n :: withSuffix (m :: ns)

theorem withSuffix_ne_nil (ns : List Text) : withSuffix ns ≠ [] := by
  match ns with
  | [] | [_] | _ :: _ :: _ => exact List.cons_ne_nil _ _

theorem join_withSuffix (ns : List Text) :
    Text.join ['/'] (withSuffix ns) = Text.join ['/'] ns ++ documentSuffix := by
  induction ns using withSuffix.induct with
  | case1 => rfl
  | case2 n => rw [withSuffix, Text.join_singleton, Text.join_singleton]
  | case3 n m ns ih =>
    obtain ⟨k, ks, hks⟩ := List.exists_cons_of_ne_nil (withSuffix_ne_nil (m :: ns))
    rw [withSuffix, hks, Text.join_cons_cons, ← hks, ih, Text.join_cons_cons, List.append_assoc,
      List.append_assoc, List.append_assoc]

theorem isName_append_documentSuffix (hn : '/' ∉ n) : IsName (n ++ documentSuffix) := by
  refine isName_of_two_lt_length ?_ ?_
  · rw [List.length_append, show documentSuffix.length = 5 from rfl]
    omega
  · rw [List.mem_append, not_or]
    exact ⟨hn, by decide⟩

theorem isName_withSuffix (hns : ∀ n ∈ ns, IsName n) : ∀ n ∈ withSuffix ns, IsName n := by
  induction ns using withSuffix.induct with
  | case1 => exact List.forall_mem_singleton.mpr (isName_append_documentSuffix List.not_mem_nil)
  | case2 n =>
    have hn : IsName n := hns n List.mem_cons_self
    exact List.forall_mem_singleton.mpr (isName_append_documentSuffix hn.not_mem)
  | case3 n m ns ih =>
    rw [List.forall_mem_cons] at hns
    exact List.forall_mem_cons.mpr ⟨hns.1, ih hns.2⟩

/-- The ending hides no name. -/
theorem withSuffix_injective (hns : ∀ n ∈ ns, IsName n) (hms : ∀ n ∈ ms, IsName n)
    (h : withSuffix ns = withSuffix ms) : ns = ms := by
  have hempty : ∀ {n : Text}, IsName n → documentSuffix ≠ n ++ documentSuffix := fun hn heq =>
    hn.ne_nil (List.self_eq_append_left.mp heq)
  induction ns using withSuffix.induct generalizing ms with
  | case1 =>
    match ms with
    | [] => rfl
    | [m] => exact absurd (List.cons.inj h).1 (hempty (hms m List.mem_cons_self))
    | m :: m' :: ms => exact absurd (List.cons.inj h).2.symm (withSuffix_ne_nil _)
  | case2 n =>
    match ms with
    | [] => exact absurd (List.cons.inj h).1.symm (hempty (hns n List.mem_cons_self))
    | [m] => rw [List.append_cancel_right (List.cons.inj h).1]
    | m :: m' :: ms => exact absurd (List.cons.inj h).2.symm (withSuffix_ne_nil _)
  | case3 n n' ns ih =>
    match ms with
    | [] | [m] => exact absurd (List.cons.inj h).2 (withSuffix_ne_nil _)
    | m :: m' :: ms =>
      rw [List.forall_mem_cons] at hns hms
      obtain ⟨rfl, htail⟩ := List.cons.inj h
      rw [ih hns.2 hms.2 htail]

/-! ### Documents -/

/-- The names below the output directory by which the document of a source is found. -/
def documentNames (source : Path) : List Text := withSuffix (resolve (components source))

theorem isName_of_mem_resolve (source : Path) : ∀ n ∈ resolve (components source), IsName n :=
  fun _ hn => isName_of_mem_components (mem_of_mem_resolve hn)

theorem isName_of_mem_documentNames (source : Path) : ∀ n ∈ documentNames source, IsName n :=
  isName_withSuffix (isName_of_mem_resolve source)

theorem documentNames_inj {source source' : Path} :
    documentNames source = documentNames source' ↔
      resolve (components source) = resolve (components source') :=
  ⟨withSuffix_injective (isName_of_mem_resolve source) (isName_of_mem_resolve source'),
    congrArg withSuffix⟩

theorem documentPath_eq (output source : Path) :
    documentPath output source = join output (Text.join ['/'] (documentNames source)) := by
  rw [documentPath, documentNames, join_withSuffix]

theorem components_documentPath (output source : Path) :
    components (documentPath output source) =
      components output ++ (documentNames source).map .name := by
  have hnames := isName_of_mem_documentNames source
  have hne : documentNames source ≠ [] := withSuffix_ne_nil _
  rw [documentPath_eq, components_join output (front_names hnames hne),
    components_names hnames hne]

/-- **Documents stay below the output directory**, by one name at least and by names alone, and two
sources have the same document exactly when simplifying leaves the same names of both. It does not
matter whether documents are compared as they are written or component by component. -/
theorem documentPath_confined (output source source' : Path) :
    let doc := documentPath output source
    let doc' := documentPath output source'
    let same := ∃ ns, Leaves (components source) ns ∧ Leaves (components source') ns
    (∃ ns, ns ≠ [] ∧ (∀ n ∈ ns, IsName n) ∧ components doc = components output ++ ns.map .name) ∧
      (∃! ns, Leaves (components source) ns) ∧
      (doc = doc' ↔ same) ∧ (components doc = components doc' ↔ same) := by
  intro doc doc' same
  have hsame : same ↔ documentNames source = documentNames source' := by
    rw [documentNames_inj]
    constructor
    · rintro ⟨ns, h, h'⟩
      rw [leaves_iff.mp h, leaves_iff.mp h']
    · intro h
      exact ⟨_, leaves_resolve _, leaves_iff.mpr h.symm⟩
  have hcomponents : components doc = components doc' ↔ same := by
    rw [hsame, components_documentPath, components_documentPath, List.append_cancel_left_eq]
    exact ⟨fun h => List.map_injective_iff.mpr (fun _ _ => Component.name.inj) h, congrArg _⟩
  refine ⟨⟨documentNames source, withSuffix_ne_nil _, isName_of_mem_documentNames source,
    components_documentPath output source⟩, ?_, ⟨fun h => ?_, fun h => ?_⟩, hcomponents⟩
  · exact ⟨_, leaves_resolve _, fun ns h => (leaves_iff.mp h).symm⟩
  · exact hcomponents.mp (congrArg components h)
  · rw [show doc = _ from documentPath_eq output source, hsame.mp h, ← documentPath_eq]

/-- Excess dots and a root do not matter, and nothing is left of a path of dots. -/
example : documentPath "out".toList "/a/../../b.c".toList = "out/b.c.json".toList ∧
    documentPath "out/".toList "..".toList = "out/.json".toList := by decide

end Marginalia.Path
