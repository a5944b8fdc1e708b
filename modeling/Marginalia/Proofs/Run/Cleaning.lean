import Marginalia.Proofs.Run.Emission

/-!
# What a run takes away

Only clearing the output directory takes something away, and only at the place of this directory and
below it (`prefix_of_lost_runTask`). The path of the directory is looked up twice, the second time
after all that is in the directory is gone; it may lead nowhere then, but it cannot lead to another
place.
-/

namespace Marginalia.FileStore

variable {s s' : FileStore} {timestamp : Text} {task : Task} {grammars : Grammars}
  {output p : Path} {clean : Bool} {files : List Path} {l : Location} {i : Item}

/-- Something was at the location, and now there is nothing. -/
def Loses (s s' : FileStore) (l : Location) : Prop := s.get? l ≠ none ∧ s'.get? l = none

instance (s s' : FileStore) (l : Location) : Decidable (s.Loses s' l) :=
  inferInstanceAs (Decidable (_ ∧ _))

theorem not_loses_self (s : FileStore) (l : Location) : ¬ s.Loses s l := fun h => h.1 h.2

/-- What is lost in two steps is lost in one of them. -/
theorem Loses.of_trans {s'' : FileStore} (h : s.Loses s'' l) (s' : FileStore) :
    s.Loses s' l ∨ s'.Loses s'' l := by
  by_cases hl : s'.get? l = none
  · exact Or.inl ⟨h.1, hl⟩
  · exact Or.inr ⟨hl, h.2⟩

theorem Grows.not_loses {F : Location → Prop} (h : Grows F s s') (l : Location) :
    ¬ s.Loses s' l := fun hl => h.get?_ne_none hl.1 hl.2

/-! ### Directories -/

theorem place_of_item? (h : s.item? p = .ok (l, i)) : p.place s.here = l := by
  unfold item? at h
  cases hx : s.spot p with
  | error e =>
    rw [hx] at h
    cases h
  | ok x =>
    rw [hx] at h
    rw [(place_of_spot hx).1]
    cases x with
    | directory l' => exact (Prod.mk.inj (Except.ok.inj h)).1
    | name l' =>
      dsimp only at h
      split at h
      · cases h
      · cases h
      · exact (Prod.mk.inj (Except.ok.inj h)).1

theorem place_dropSlashes (here : Location) (p : Path) :
    (dropSlashes p).place here = p.place here := by
  rw [Path.place, Path.components_dropSlashes, Path.place]

/-- **Removing** a directory takes away nothing but the directory and what is below it. -/
theorem prefix_of_lost_removeDirectory (h : s.Loses (s.removeDirectory p).1 l) :
    p.place s.here <+: l := by
  unfold removeDirectory at h
  split at h
  · exact absurd h (not_loses_self s l)
  · exact absurd h (not_loses_self s l)
  · rename_i place hitem
    rw [place_of_item? hitem]
    have hbelow : s.Loses (s.removeBelow place) l → place <+: l := by
      intro hl
      by_contra hprefix
      refine hl.1 ?_
      rw [← hl.2, get?_removeBelow, if_neg fun hboth => hprefix hboth.1]
    dsimp only at h
    split at h
    · exact hbelow h
    · exact hbelow h
    · rename_i place' hspot
      -- the path leads to the same place if it still leads anywhere
      obtain ⟨hplace', hne⟩ := place_of_spot hspot
      obtain rfl : place = place' :=
        (place_of_item? hitem).symm.trans ((place_dropSlashes s.here p).symm.trans hplace')
      rcases h.of_trans (s.removeBelow place) with hfirst | hlast
      · exact hbelow hfirst
      · by_contra hprefix
        refine hlast.1 ?_
        rw [← hlast.2, get?_removeFrom (hne place rfl), if_neg hprefix]
    · exact hbelow h

/-- The working directory keeps its location, also when it is taken away. -/
@[simp] theorem here_removeDirectory (s : FileStore) (p : Path) :
    (s.removeDirectory p).1.here = s.here := by
  unfold removeDirectory
  split
  · rfl
  · rfl
  · dsimp only
    split <;> rfl

@[simp] theorem here_clear (s : FileStore) (clean : Bool) (output : Path) :
    (s.clear clean output).1.here = s.here := by
  unfold clear
  split
  · have hhere := here_removeDirectory s output
    split
    · rename_i hremove
      rwa [hremove] at hhere
    · rename_i hremove
      rwa [hremove] at hhere
  · rfl

theorem prefix_of_lost_clear (h : s.Loses (s.clear clean output).1 l) :
    clean = true ∧ output.place s.here <+: l := by
  unfold clear at h
  split at h
  · rename_i hclean
    have hdirectory : s.Loses (s.removeDirectory output).1 l := by
      split at h
      · rename_i hremove
        rwa [hremove]
      · rename_i hremove
        rwa [hremove]
    exact ⟨(Bool.and_eq_true_iff.mp hclean).1, prefix_of_lost_removeDirectory hdirectory⟩
  · exact absurd h (not_loses_self s l)

/-! ### Runs -/

/-- **Runs** take away nothing but the output directory and what is below it, and that only if they
are asked to. -/
theorem prefix_of_lost_runTask
    (h : s.Loses (s.runTask timestamp task grammars output clean).1 l) :
    clean = true ∧ output.place s.here <+: l := by
  unfold runTask at h
  split at h
  · exact absurd h (not_loses_self s l)
  · rename_i files _
    have hgrows := grows_runFiles s timestamp task grammars output clean files
    exact prefix_of_lost_clear ((h.of_trans _).resolve_right (hgrows.not_loses l))

theorem here_runTask (s : FileStore) (timestamp : Text) (task : Task) (grammars : Grammars)
    (output : Path) (clean : Bool) :
    (s.runTask timestamp task grammars output clean).1.here = s.here := by
  unfold runTask
  split
  · rfl
  · rename_i files _
    rw [(grows_runFiles s timestamp task grammars output clean files).here, here_clear]

end Marginalia.FileStore
