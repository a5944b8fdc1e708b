import Marginalia.Proofs.FileStore.Growth
import Mathlib.Data.List.Infix

/-!
# What a path passes

Looking up a path depends on the places that it passes on the way (`Path.visited`), and only on
whether there is a directory, a file or nothing. So another store in which this is the same, and in
which the same file is at the end of the path, gives the same when the path is read (`read_congr`).
-/

namespace Marginalia

namespace Path

variable {p : Path} {cs : List Component}

/-- The locations that the path passes if all the directories on the way are there, from where its
lookup starts to its place. -/
def visited (here : Location) (p : Path) : List Location :=
  (between p).inits.map fun cs => cs.foldl descend (start here p)

theorem mem_visited_of_isPrefix (hcs : cs <+: between p) (here : Location) :
    cs.foldl descend (start here p) ∈ visited here p :=
  List.mem_map.mpr ⟨cs, (List.mem_inits cs _).mpr hcs, rfl⟩

/-- A path passes its place. -/
theorem place_mem_visited (here : Location) (p : Path) : place here p ∈ visited here p := by
  rw [place_eq]
  exact mem_visited_of_isPrefix List.prefix_rfl here

end Path

namespace FileStore

variable {s s' : FileStore} {l : Location} {p : Path}

/-- At a location there is the same in both stores, or a file in both. -/
def SameKind (s s' : FileStore) (l : Location) : Prop :=
  s'.get? l = s.get? l ∨ ∃ c c', s.get? l = some (.file c) ∧ s'.get? l = some (.file c')

theorem enter_congr {piece : Text}
    (h : ∀ n, Path.component? piece = some (.name n) → SameKind s s' (l ++ [n])) :
    s'.enter l piece = s.enter l piece := by
  unfold enter
  cases hpiece : Path.component? piece with
  | none => rfl
  | some c =>
    cases c with
    | root | current | parent => rfl
    | name n =>
      dsimp only
      rw [look, look]
      split_ifs
      · rfl
      · rcases h n hpiece with heq | ⟨c, c', hfile, hfile'⟩
        · rw [heq]
        · rw [hfile, hfile']

theorem SameKind.get?_eq_directory_iff (h : SameKind s s' l) :
    s'.get? l = some .directory ↔ s.get? l = some .directory := by
  rcases h with heq | ⟨c, c', hfile, hfile'⟩
  · rw [heq]
  · simp [hfile, hfile']

theorem foldlM_enter_congr {pieces : List Text}
    (h : ∀ cs, cs <+: pieces.filterMap Path.component? → SameKind s s' (cs.foldl Path.descend l)) :
    pieces.foldlM s'.enter l = pieces.foldlM s.enter l := by
  induction pieces generalizing l with
  | nil => rfl
  | cons piece pieces ih =>
    have hfirst : s'.enter l piece = s.enter l piece := enter_congr fun n hn => by
      refine h [.name n] ?_
      rw [List.filterMap_cons_some hn]
      exact (List.prefix_cons_inj _).mpr List.nil_prefix
    rw [List.foldlM_cons, List.foldlM_cons, hfirst]
    cases henter : s.enter l piece with
    | error e => rfl
    | ok l₁ =>
      have hl := descend_of_enter henter
      refine ih fun cs hcs => ?_
      cases hpiece : Path.component? piece with
      | none =>
        rw [hpiece] at hl
        obtain rfl : l = l₁ := hl
        refine h cs ?_
        rwa [List.filterMap_cons_none hpiece]
      | some c =>
        rw [hpiece] at hl
        obtain rfl : Path.descend l c = l₁ := hl
        refine h (c :: cs) ?_
        rw [List.filterMap_cons_some hpiece]
        exact (List.prefix_cons_inj c).mpr hcs

theorem enterAll_congr {pieces : List Text}
    (h : ∀ cs, cs <+: pieces.filterMap Path.component? → SameKind s s' (cs.foldl Path.descend l)) :
    s'.enterAll l pieces = s.enterAll l pieces := by
  unfold enterAll
  rw [foldlM_enter_congr h]
  cases hfold : pieces.foldlM s.enter l with
  | error e => rfl
  | ok l₁ =>
    have hend := h _ List.prefix_rfl
    rw [foldl_descend_of_enter hfold] at hend
    simp only [hend.get?_eq_directory_iff]

theorem spot_congr (hhere : s'.here = s.here) (h : ∀ l ∈ p.visited s.here, SameKind s s' l) :
    s'.spot p = s.spot p := by
  have hall : ∀ pieces, pieces <+: p.splitOn '/' →
      s'.enterAll (Path.start s.here p) pieces = s.enterAll (Path.start s.here p) pieces :=
    fun pieces hpieces => enterAll_congr fun cs hcs =>
      h _ (Path.mem_visited_of_isPrefix (hcs.trans (hpieces.filterMap _)) s.here)
  unfold spot
  rw [hhere]
  dsimp only
  rw [hall _ (List.dropLast_prefix _), hall _ List.prefix_rfl]

/-- **Reading** depends on what kind of things the path passes and on the file at its end. -/
theorem read_congr (hhere : s'.here = s.here) (h : ∀ l ∈ p.visited s.here, SameKind s s' l)
    (hend : s'.get? (p.place s.here) = s.get? (p.place s.here)) : s'.read p = s.read p := by
  unfold read item?
  rw [spot_congr hhere h]
  rcases hspot : s.spot p with e | (l | l)
  · rfl
  · rfl
  · rw [(place_of_spot hspot).1] at hend
    dsimp only [Spot.location] at hend ⊢
    rw [look, look, hend]

end FileStore

end Marginalia
