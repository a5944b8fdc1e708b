import Marginalia.Proofs.FileStore.Places
import Marginalia.Proofs.Path.Below
import Marginalia.Proofs.Path.Documents
import Mathlib.Data.List.DropRight

/-!
# Paths that go down

A path *descends* by names when these are all that stands between its slashes, dots and empty pieces
left out, and it ends in the last one (`Descends`). Then the path above it descends by the names
before the last one, and it is written at the front of the path (`Descends.exists_parent`).

Below an output directory without two dots, the path of a document descends
(`exists_descends_documentPath`). Documents of which one is not below the other go apart by their
names (`documentPath_eq_or_below`).
-/

namespace Marginalia

theorem Text.join_isPrefix (sep : Text) {ps qs : List Text} (h : ps <+: qs) :
    join sep ps <+: join sep qs := by
  induction ps generalizing qs with
  | nil => exact List.nil_prefix
  | cons p ps ih =>
    obtain ⟨rest, rfl⟩ := h
    cases ps with
    | nil =>
      cases rest with
      | nil => exact List.prefix_rfl
      | cons q rest =>
        rw [join_singleton, List.singleton_append, join_cons_cons, List.append_assoc]
        exact List.prefix_append _ _
    | cons p' ps =>
      rw [List.cons_append, List.cons_append, join_cons_cons, join_cons_cons]
      exact (List.prefix_append_right_inj _).mpr (ih (List.prefix_append _ _))

namespace Path

variable {p q output source source' : Path} {ns : List Text} {m n piece : Text} {c : Char}

/-! ### Pieces -/

theorem component?_eq_none_iff : component? piece = none ↔ piece = [] ∨ piece = ['.'] := by
  unfold component?
  split_ifs with h₁ h₂
  · simpa using h₁
  · simpa using h₁
  · simpa using h₁

theorem filterMap_rdropWhile (ps : List Text) :
    (ps.rdropWhile fun piece => (component? piece).isNone).filterMap component? =
      ps.filterMap component? := by
  induction ps using List.reverseRecOn with
  | nil => rfl
  | append_singleton ps piece ih =>
    by_cases h : (component? piece).isNone = true
    · have hnone : component? piece = none := Option.isNone_iff_eq_none.mp h
      rw [List.rdropWhile_concat_pos (fun piece => (component? piece).isNone) ps piece h, ih,
        List.filterMap_append, List.filterMap_cons_none hnone, List.filterMap_nil, List.append_nil]
    · rw [List.rdropWhile_concat_neg (fun piece => (component? piece).isNone) ps piece h]

theorem filterMap_trimPieces (ps : List Text) :
    (trimPieces ps).filterMap component? = ps.filterMap component? := by
  match ps with
  | [] | [_] => rfl
  | first :: second :: rest =>
    rw [List.filterMap_cons, ← filterMap_rdropWhile (second :: rest), ← List.filterMap_cons]
    rfl

theorem trimPieces_isPrefix (ps : List Text) : trimPieces ps <+: ps := by
  match ps with
  | [] | [_] => exact List.prefix_rfl
  | first :: second :: rest =>
    exact (List.prefix_cons_inj first).mpr (List.rdropWhile_prefix _ (second :: rest))

theorem trimPieces_concat (ps : List Text) (h : component? piece ≠ none) :
    trimPieces (ps ++ [piece]) = ps ++ [piece] := by
  match ps with
  | [] => rfl
  | first :: rest =>
    have hkeep : ¬ (component? piece).isNone = true := fun hn => h (Option.isNone_iff_eq_none.mp hn)
    have hrest :=
      List.rdropWhile_concat_neg (fun piece => (component? piece).isNone) rest piece hkeep
    cases rest with
    | nil => exact congrArg _ hrest
    | cons second rest => exact congrArg _ hrest

/-- What is left of several pieces does not end in a dot. -/
theorem length_le_one_of_trimPieces {ps init : List Text} (h : trimPieces ps = init ++ [piece])
    (hpiece : component? piece = none) : init = [] := by
  match ps with
  | [] => cases init <;> cases h
  | [_] => exact (List.append_eq_singleton_iff.mp h.symm).elim And.left fun h => by cases h.2
  | first :: second :: rest =>
    cases init with
    | nil => rfl
    | cons _ init =>
      have htail : (second :: rest).rdropWhile (fun piece => (component? piece).isNone) =
          init ++ [piece] := (List.cons.inj h).2
      have hne : (second :: rest).rdropWhile (fun piece => (component? piece).isNone) ≠ [] := by
        rw [htail]
        exact List.append_ne_nil_of_right_ne_nil _ (List.cons_ne_nil _ _)
      have hlast := List.rdropWhile_last_not _ _ hne
      simp only [htail, List.getLast_concat, hpiece, Option.isNone_none, not_true] at hlast

/-! ### Going down -/

/-- The path goes down by the names from where it starts, and ends in the last of them. -/
structure Descends (p : Path) (ns : List Text) : Prop where
  between_eq : between p = ns.map .name
  /-- It ends in a name, unless it is empty, a dot or the root. -/
  ending : ∀ piece, (p.splitOn '/').getLast? = some piece → component? piece = none →
    p = [] ∨ p = ['.'] ∨ p = ['/']

/-- Pieces of a path make a path that goes down, when none of them are two dots. -/
theorem descends_join_trimPieces {init : List Text}
    (hinit : init.filterMap component? = ns.map .name) (hslash : ∀ piece ∈ init, '/' ∉ piece) :
    Descends (Text.join ['/'] (trimPieces init)) ns := by
  rw [← filterMap_trimPieces] at hinit
  rcases eq_or_ne (trimPieces init) [] with hnil | hne
  · rw [hnil] at hinit ⊢
    exact ⟨hinit, fun _ _ _ => Or.inl rfl⟩
  · have hpieces : (Text.join ['/'] (trimPieces init)).splitOn '/' = trimPieces init :=
      List.splitOn_intercalate '/'
        (fun piece hpiece => hslash piece ((trimPieces_isPrefix init).subset hpiece)) hne
    refine ⟨by rw [between, hpieces, hinit], fun piece hlast hpiece => ?_⟩
    rw [hpieces] at hlast
    obtain ⟨before, hbefore⟩ := List.getLast?_eq_some_iff.mp hlast
    obtain rfl := length_le_one_of_trimPieces hbefore hpiece
    rw [hbefore, List.nil_append, Text.join_singleton]
    exact (component?_eq_none_iff.mp hpiece).imp_right Or.inl

theorem isAbsolute_of_isPrefix (h : q <+: p) (hp : isAbsolute p = false) :
    isAbsolute q = false := by
  obtain ⟨rest, rfl⟩ := h
  cases q with
  | nil => rfl
  | cons c q => exact hp

theorem root_isPrefix (hp : isAbsolute p = true) : ['/'] <+: p := by
  cases p with
  | nil => cases hp
  | cons c rest =>
    obtain rfl : c = '/' := by simpa [isAbsolute] using hp
    exact ⟨rest, rfl⟩

/-- The first piece of a path from the root is empty, and so is what is left of it. -/
theorem isAbsolute_join_trimPieces {init : List Text} (hpieces : p.splitOn '/' = init ++ [n])
    (hn : n ≠ []) (hp : isAbsolute p = true) (hroot : trimPieces init ≠ [[]]) :
    isAbsolute (Text.join ['/'] (trimPieces init)) = true := by
  obtain ⟨rest, rfl⟩ := root_isPrefix hp
  rw [List.singleton_append] at hpieces
  have hsplit : List.splitOn '/' ('/' :: rest) = [] :: rest.splitOn '/' :=
    List.splitOn_append_cons_self [] rest
  rw [hsplit] at hpieces
  cases init with
  | nil => exact absurd (List.cons.inj hpieces).1.symm hn
  | cons first init =>
    obtain rfl := (List.cons.inj hpieces).1
    cases init with
    | nil => exact absurd rfl hroot
    | cons second init =>
      have htrim : trimPieces ([] :: second :: init) =
          [] :: (second :: init).rdropWhile fun piece => (component? piece).isNone := rfl
      rw [htrim] at hroot ⊢
      generalize (second :: init).rdropWhile _ = up at hroot ⊢
      cases up with
      | nil => exact absurd rfl hroot
      | cons piece up =>
        rw [Text.join_cons_cons]
        rfl

/-- The path above is what stands in front of the last name, and above a name in the root it is the
root. -/
theorem parent?_eq {init : List Text} (hlast : last? p = some (.name n))
    (hpieces : p.splitOn '/' = init ++ [n]) (hn : component? n ≠ none) :
    parent? p = some (if trimPieces init = [[]] ∧ isAbsolute p = true then ['/']
      else Text.join ['/'] (trimPieces init)) := by
  have htrim : trimPieces (trimPieces (p.splitOn '/')).dropLast = trimPieces init := by
    rw [hpieces, trimPieces_concat init hn, List.dropLast_concat]
  simp only [parent?, hlast, htrim]
  split
  · rename_i heq
    simp only [heq, true_and]
    rfl
  · rename_i hne
    rw [if_neg fun h => hne h.1]

theorem join_trimPieces_isPrefix {init : List Text} (hpieces : p.splitOn '/' = init ++ [n]) :
    Text.join ['/'] (trimPieces init) <+: p := by
  have hjoin : Text.join ['/'] (p.splitOn '/') = p := List.intercalate_splitOn '/'
  rw [← hjoin, hpieces]
  exact Text.join_isPrefix ['/'] ((trimPieces_isPrefix init).trans (List.prefix_append _ _))

namespace Descends

theorem isName (h : Descends p ns) (hn : n ∈ ns) : IsName n := by
  refine isName_of_mem_components (p := p) ?_
  rw [components_eq, h.between_eq, List.mem_append]
  exact Or.inr (List.mem_map_of_mem hn)

theorem place_eq (h : Descends p ns) (here : Location) : place here p = start here p ++ ns := by
  rw [Path.place_eq, h.between_eq, foldl_descend_names]

theorem eq_of_nil (h : Descends p []) : p = [] ∨ p = ['.'] ∨ p = ['/'] := by
  obtain ⟨piece, hpiece⟩ : ∃ piece, (p.splitOn '/').getLast? = some piece :=
    ⟨_, List.getLast?_eq_some_getLast (List.splitOn_ne_nil '/' p)⟩
  refine h.ending piece hpiece ?_
  exact List.filterMap_eq_nil_iff.mp h.between_eq piece (List.mem_of_getLast? hpiece)

/-- The last piece is the last name. -/
theorem exists_splitOn (h : Descends p (ns ++ [n])) :
    ∃ init, p.splitOn '/' = init ++ [n] ∧ init.filterMap component? = ns.map .name := by
  obtain ⟨init, last, hpieces⟩ := Text.exists_splitOn_eq_concat '/' p
  have hbetween := h.between_eq
  rw [between, hpieces, List.filterMap_append, List.map_append] at hbetween
  cases hlast : component? last with
  | none =>
    -- neither the empty path nor the dot nor the root has a name
    have hnil : between p = [] := by
      rcases h.ending last (by rw [hpieces, List.getLast?_concat]) hlast with rfl | rfl | rfl
      · rfl
      · rfl
      · rfl
    rw [h.between_eq] at hnil
    simp at hnil
  | some c =>
    rw [List.filterMap_cons_some hlast, List.filterMap_nil] at hbetween
    obtain ⟨hinit, hc⟩ := List.append_inj' hbetween rfl
    obtain rfl := (component?_eq_name_iff.mp ((List.cons.inj hc).1 ▸ hlast)).1
    exact ⟨init, hpieces, hinit⟩

theorem ne_nil (h : Descends p (ns ++ [n])) : p ≠ [] := by
  rintro rfl
  have hbetween := h.between_eq
  simp [between, List.splitOn_nil, component?] at hbetween

/-- There is no slash at the end. -/
theorem dropSlashes_eq (h : Descends p (ns ++ [n])) : FileStore.dropSlashes p = p := by
  obtain ⟨init, hpieces, -⟩ := h.exists_splitOn
  rcases List.eq_nil_or_concat' p with hnil | ⟨before, c, rfl⟩
  · exact absurd hnil h.ne_nil
  · have hc : c ≠ '/' := by
      rintro rfl
      rw [List.splitOn_append_cons_self, List.splitOn_nil] at hpieces
      have hempty := (List.cons.inj (List.append_inj' hpieces rfl).2).1
      exact (h.isName (List.mem_append_right _ List.mem_cons_self)).ne_nil hempty.symm
    have hkept : ((before ++ [c]).reverse.dropWhile (· == '/')).reverse = before ++ [c] := by
      rw [List.reverse_append, List.reverse_singleton, List.singleton_append,
        List.dropWhile_cons_of_neg (by simpa using hc), ← List.reverse_concat, List.reverse_reverse]
    rw [FileStore.dropSlashes, hkept]
    split
    · rename_i heq
      exact absurd heq h.ne_nil
    · rfl

theorem last?_eq (h : Descends p (ns ++ [n])) : last? p = some (.name n) := by
  rw [last?, components_eq, h.between_eq, List.map_append, ← List.append_assoc, List.map_singleton,
    List.getLast?_concat]

/-- **The path above** goes down by the names before the last one, from the same start. -/
theorem exists_parent (h : Descends p (ns ++ [n])) :
    ∃ q, parent? p = some q ∧ Descends q ns ∧ isAbsolute q = isAbsolute p ∧ q <+: p ∧
      q.length < p.length := by
  obtain ⟨init, hpieces, hinit⟩ := h.exists_splitOn
  have hn : IsName n := h.isName (List.mem_append_right _ List.mem_cons_self)
  have hparent := parent?_eq h.last?_eq hpieces (hn.component?_eq ▸ Option.some_ne_none _)
  obtain ⟨q, hparent, hdescends, habsolute, hfront⟩ : ∃ q, parent? p = some q ∧ Descends q ns ∧
      isAbsolute q = isAbsolute p ∧ q <+: p := by
    by_cases hroot : trimPieces init = [[]] ∧ isAbsolute p = true
    · -- the name is in the root
      rw [if_pos hroot] at hparent
      rw [← filterMap_trimPieces, hroot.1] at hinit
      obtain rfl := List.map_eq_nil_iff.mp hinit.symm
      exact ⟨['/'], hparent, ⟨rfl, fun _ _ _ => Or.inr (Or.inr rfl)⟩, hroot.2.symm,
        root_isPrefix hroot.2⟩
    · rw [if_neg hroot] at hparent
      have hfront := join_trimPieces_isPrefix hpieces
      refine ⟨_, hparent, descends_join_trimPieces hinit fun piece hpiece => ?_, ?_, hfront⟩
      · refine Text.not_mem_of_mem_splitOn (t := p) ?_
        rw [hpieces]
        exact List.mem_append_left _ hpiece
      · cases hp : isAbsolute p with
        | false => exact isAbsolute_of_isPrefix hfront hp
        | true => exact isAbsolute_join_trimPieces hpieces hn.ne_nil hp fun heq => hroot ⟨heq, hp⟩
  refine ⟨q, hparent, hdescends, habsolute, hfront, hfront.length_le.lt_of_ne fun hlength => ?_⟩
  -- the path above has one name less
  have hnames := hdescends.between_eq
  rw [hfront.eq_of_length hlength, h.between_eq] at hnames
  simpa using congrArg List.length hnames

/-- All characters are in the names, but for slashes and dots. -/
theorem exists_mem (h : Descends p ns) (hc : c ∈ p) (hslash : c ≠ '/') (hdot : c ≠ '.') :
    ∃ n ∈ ns, c ∈ n := by
  have hjoin : Text.join ['/'] (p.splitOn '/') = p := List.intercalate_splitOn '/'
  rw [← hjoin] at hc
  obtain hc | ⟨piece, hpiece, hc⟩ := Text.mem_of_mem_join hc
  · exact absurd (List.mem_singleton.mp hc) hslash
  · cases hcomponent : component? piece with
    | none =>
      rcases component?_eq_none_iff.mp hcomponent with rfl | rfl
      · cases hc
      · exact absurd (List.mem_singleton.mp hc) hdot
    | some x =>
      have hmem : x ∈ between p := List.mem_filterMap.mpr ⟨piece, hpiece, hcomponent⟩
      rw [h.between_eq] at hmem
      obtain ⟨n, hn, rfl⟩ := List.mem_map.mp hmem
      exact ⟨n, hn, (component?_eq_name_iff.mp hcomponent).1 ▸ hc⟩

theorem mem_of_mem (h : Descends p ns) (hn : n ∈ ns) (hc : c ∈ n) : c ∈ p := by
  have hmem : .name n ∈ between p := by
    rw [h.between_eq]
    exact List.mem_map_of_mem hn
  obtain ⟨piece, hpiece, hcomponent⟩ := List.mem_filterMap.mp hmem
  exact Text.mem_of_mem_splitOn hpiece ((component?_eq_name_iff.mp hcomponent).1 ▸ hc)

end Descends

/-! ### Documents -/

/-- The pieces of a joined path are those of the second one after some of the first one. -/
theorem exists_splitOn_join (o : Path) (hq : isAbsolute q = false) :
    ∃ init, (join o q).splitOn '/' = init ++ q.splitOn '/' ∧
      init.filterMap component? = between o := by
  rw [join, hq, if_neg Bool.false_ne_true]
  split_ifs with hend
  · rw [Bool.or_eq_true, List.isEmpty_iff, beq_iff_eq] at hend
    rcases hend with rfl | hend
    · exact ⟨[], rfl, rfl⟩
    · obtain ⟨before, rfl⟩ := List.getLast?_eq_some_iff.mp hend
      refine ⟨before.splitOn '/', ?_, ?_⟩
      · rw [List.append_assoc, List.singleton_append, List.splitOn_append_cons_self]
      · rw [between_append]
        exact (List.append_nil _).symm
  · exact ⟨o.splitOn '/', List.splitOn_append_cons_self _ _, rfl⟩

theorem isAbsolute_names (hns : ∀ n ∈ ns, IsName n) (hne : ns ≠ []) :
    isAbsolute (Text.join ['/'] ns) = false := by
  have hfront := front_names hns hne
  unfold front at hfront
  split_ifs at hfront with h
  exact Bool.not_eq_true _ ▸ h

/-- **Documents** are found by going down, first to the output directory and then by names of their
own. -/
theorem exists_descends_documentPath (hdots : .parent ∉ components output) :
    ∃ os, ∀ source, Descends (documentPath output source) (os ++ documentNames source) := by
  rw [mem_components_iff (by simp) (by simp)] at hdots
  obtain ⟨os, hos⟩ := between_eq_names hdots
  refine ⟨os, fun source => ?_⟩
  have hnames := isName_of_mem_documentNames source
  have hne : documentNames source ≠ [] := withSuffix_ne_nil _
  have hbetween := between_names hnames hne
  rw [documentPath_eq]
  obtain ⟨init, hpieces, hinit⟩ := exists_splitOn_join output (isAbsolute_names hnames hne)
  refine ⟨?_, fun piece hlast hpiece => ?_⟩
  · rw [between, hpieces, List.filterMap_append, hinit, hos, List.map_append, ← hbetween, between]
  · rw [hpieces, splitOn_names hnames hne, List.getLast?_append_of_ne_nil _ hne] at hlast
    rw [(hnames piece (List.mem_of_getLast? hlast)).component?_eq] at hpiece
    cases hpiece

theorem mem_of_mem_withSuffix (hn : n ∈ withSuffix ns) (hc : c ∈ n) :
    (∃ m ∈ ns, c ∈ m) ∨ c ∈ documentSuffix := by
  induction ns using withSuffix.induct with
  | case1 => exact Or.inr (List.mem_singleton.mp hn ▸ hc)
  | case2 m =>
    rw [List.mem_singleton.mp hn, List.mem_append] at hc
    exact hc.imp_left fun hc => ⟨m, List.mem_cons_self, hc⟩
  | case3 m m' ms ih =>
    rcases List.mem_cons.mp hn with rfl | hn
    · exact Or.inl ⟨n, List.mem_cons_self, hc⟩
    · rw [List.exists_mem_cons_iff]
      exact (ih hn).imp_left Or.inr

/-- Apart from the ending, the names of a document are written in the path of its source. -/
theorem mem_of_mem_documentNames (hn : n ∈ documentNames source) (hc : c ∈ n) :
    c ∈ source ∨ c ∈ documentSuffix := by
  refine (mem_of_mem_withSuffix hn hc).imp_left ?_
  rintro ⟨m, hm, hcm⟩
  have hmem := mem_of_mem_resolve hm
  rw [components_eq, List.mem_append] at hmem
  rcases hmem with hmem | hmem
  · unfold front at hmem
    split_ifs at hmem <;> simp at hmem
  · obtain ⟨piece, hpiece, hcomponent⟩ := List.mem_filterMap.mp hmem
    exact Text.mem_of_mem_splitOn hpiece ((component?_eq_name_iff.mp hcomponent).1 ▸ hcm)

/-- A document whose names begin with those of another one is the same or below it. -/
theorem documentPath_eq_or_below (output : Path)
    (h : documentNames source <+: documentNames source') :
    documentPath output source = documentPath output source' ∨
      Below (documentPath output source) (documentPath output source') := by
  obtain ⟨ns, hns⟩ := h
  rcases eq_or_ne ns [] with rfl | hne
  · rw [List.append_nil] at hns
    rw [documentPath_eq, hns, ← documentPath_eq]
    exact Or.inl rfl
  · refine Or.inr ⟨ns, hne, fun n hn => ?_, ?_⟩
    · refine isName_of_mem_documentNames source' n ?_
      rw [← hns]
      exact List.mem_append_right _ hn
    · rw [components_documentPath, components_documentPath, ← hns, List.map_append,
        List.append_assoc]

end Path

end Marginalia
