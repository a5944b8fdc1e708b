import Marginalia.Proofs.FileStore.Places

/-!
# Stores that grow

Writing a file and making directories take nothing away (`Grows`). So a path that leads somewhere
still leads there afterwards (`spot_of_grows`), and a file that is not among those written can be
read as before (`read_of_grows`). What was written is read back (`write_ok`).
-/

namespace Marginalia.FileStore

variable {s s' s'' : FileStore} {F G : Location → Prop} {l l' : Location} {i : Item} {p : Path}
  {content : Utf8.Bytes}

/-- Nothing is taken away: there may be new directories, and the files at the locations `F` may be
new or have another content. -/
structure Grows (F : Location → Prop) (s s' : FileStore) : Prop where
  here : s'.here = s.here
  item : ∀ l, s'.get? l = s.get? l ∨ (s.get? l = none ∧ s'.get? l = some .directory) ∨
    (F l ∧ s.get? l ≠ some .directory ∧ ∃ content, s'.get? l = some (.file content))

namespace Grows

theorem refl (F : Location → Prop) (s : FileStore) : Grows F s s :=
  ⟨rfl, fun _ => Or.inl rfl⟩

theorem mono (h : Grows F s s') (hFG : ∀ l, F l → G l) : Grows G s s' :=
  ⟨h.here, fun l => (h.item l).imp_right (Or.imp_right fun hl => ⟨hFG l hl.1, hl.2⟩)⟩

theorem get?_directory (h : Grows F s s') (hl : s.get? l = some .directory) :
    s'.get? l = some .directory := by
  rcases h.item l with heq | ⟨hnone, -⟩ | ⟨-, hne, -⟩
  · rw [heq, hl]
  · rw [hl] at hnone
    cases hnone
  · exact absurd hl hne

theorem get?_of_not_mem (h : Grows F s s') (hF : ¬ F l) (hl : s.get? l = some i) :
    s'.get? l = some i := by
  rcases h.item l with heq | ⟨hnone, -⟩ | ⟨hmem, -⟩
  · rw [heq, hl]
  · rw [hl] at hnone
    cases hnone
  · exact absurd hmem hF

/-- Nothing is lost. -/
theorem get?_ne_none (h : Grows F s s') (hl : s.get? l ≠ none) : s'.get? l ≠ none := by
  rcases h.item l with heq | ⟨-, hdir⟩ | ⟨-, -, content, hfile⟩
  · rwa [heq]
  · rw [hdir]
    exact Option.some_ne_none _
  · rw [hfile]
    exact Option.some_ne_none _

theorem trans (h : Grows F s s') (h' : Grows F s' s'') : Grows F s s'' := by
  refine ⟨h'.here.trans h.here, fun l => ?_⟩
  rcases h'.item l with heq | ⟨hnone, hdir⟩ | ⟨hF, hne, hfile⟩
  · rw [heq]
    exact h.item l
  · -- what is not there now was not there before
    have hbefore : s.get? l = none := by
      by_contra hl
      exact h.get?_ne_none hl hnone
    exact Or.inr (Or.inl ⟨hbefore, hdir⟩)
  · exact Or.inr (Or.inr ⟨hF, fun hl => hne (h.get?_directory hl), hfile⟩)

end Grows

theorem grows_put_directory (hl : l ≠ []) (hnone : s.get? l = none) (F : Location → Prop) :
    Grows F s (s.put l .directory) := by
  refine ⟨rfl, fun l' => ?_⟩
  rw [get?_put hl]
  split_ifs with h
  · rw [h]
    exact Or.inr (Or.inl ⟨hnone, rfl⟩)
  · exact Or.inl rfl

theorem grows_put_file (hl : l ≠ []) (hne : s.get? l ≠ some .directory) (content : Utf8.Bytes) :
    Grows (· = l) s (s.put l (.file content)) := by
  refine ⟨rfl, fun l' => ?_⟩
  rw [get?_put hl]
  split_ifs with h
  · rw [h]
    exact Or.inr (Or.inr ⟨rfl, hne, content, rfl⟩)
  · exact Or.inl rfl

/-! ### Looking up paths -/

theorem look_eq_ok_iff {o : Option Item} :
    s.look l = .ok o ↔ (l.any fun name => nameLimit < byteCount name) = false ∧ s.get? l = o := by
  unfold look
  split_ifs with h <;> simp [h]

theorem enter_of_grows {piece : Text} (h : Grows F s s') (he : s.enter l piece = .ok l') :
    s'.enter l piece = .ok l' := by
  unfold enter at he ⊢
  cases hc : Path.component? piece with
  | none =>
    rw [hc] at he
    exact he
  | some c =>
    rw [hc] at he
    cases c with
    | root | current | parent => exact he
    | name n =>
      dsimp only at he ⊢
      split at he
      · cases he
      · cases he
      · cases he
      · rename_i hlook
        obtain ⟨hshort, hdir⟩ := look_eq_ok_iff.mp hlook
        rw [look_eq_ok_iff.mpr ⟨hshort, h.get?_directory hdir⟩]
        exact he

theorem foldlM_enter_of_grows {pieces : List Text} (h : Grows F s s')
    (he : pieces.foldlM s.enter l = .ok l') : pieces.foldlM s'.enter l = .ok l' := by
  induction pieces generalizing l with
  | nil => exact he
  | cons piece pieces ih =>
    rw [List.foldlM_cons] at he ⊢
    obtain ⟨l₁, hfirst, hrest⟩ := exists_ok_of_bind he
    rw [enter_of_grows h hfirst]
    exact ih hrest

theorem enterAll_of_grows {pieces : List Text} (h : Grows F s s')
    (he : s.enterAll l pieces = .ok l') : s'.enterAll l pieces = .ok l' := by
  obtain ⟨hfold, hdir⟩ := enterAll_eq_ok_iff.mp he
  exact enterAll_eq_ok_iff.mpr ⟨foldlM_enter_of_grows h hfold, h.get?_directory hdir⟩

/-- A path that leads somewhere still leads there. -/
theorem spot_of_grows {x : Spot} (h : Grows F s s') (hx : s.spot p = .ok x) :
    s'.spot p = .ok x := by
  have hmap : ∀ {pieces : List Text} {f : Location → Spot},
      (s.enterAll (Path.start s.here p) pieces).map f = .ok x →
        (s'.enterAll (Path.start s.here p) pieces).map f = .ok x := by
    intro pieces f hp
    obtain ⟨l, hall, rfl⟩ := exists_ok_of_map hp
    rw [enterAll_of_grows h hall]
    rfl
  unfold spot at hx ⊢
  rw [h.here]
  dsimp only at hx ⊢
  split_ifs at hx ⊢
  split at hx
  · exact hmap hx
  · exact hmap hx

theorem read_eq_ok_iff :
    s.read p = .ok content ↔
      ∃ l, s.spot p = .ok (.name l) ∧ s.look l = .ok (some (.file content)) := by
  unfold read item?
  constructor
  · intro h
    cases hx : s.spot p with
    | error e =>
      rw [hx] at h
      cases h
    | ok x =>
      rw [hx] at h
      cases x with
      | directory l => cases h
      | name l =>
        refine ⟨l, rfl, ?_⟩
        dsimp only at h
        cases hlook : s.look l with
        | error e =>
          rw [hlook] at h
          cases h
        | ok o =>
          rw [hlook] at h
          cases o with
          | none => cases h
          | some i =>
            cases i with
            | directory => cases h
            | file c =>
              obtain rfl := Except.ok.inj h
              rfl
  · rintro ⟨l, hx, hlook⟩
    simp only [hx, hlook]

theorem get?_of_read (h : s.read p = .ok content) :
    s.get? (p.place s.here) = some (.file content) := by
  obtain ⟨l, hx, hlook⟩ := read_eq_ok_iff.mp h
  rw [(place_of_spot hx).1]
  exact (look_eq_ok_iff.mp hlook).2

/-- **Reading**: a file that is not among those written can be read as before. -/
theorem read_of_grows (h : Grows F s s') (hF : ¬ F (p.place s.here))
    (hread : s.read p = .ok content) : s'.read p = .ok content := by
  obtain ⟨l, hx, hlook⟩ := read_eq_ok_iff.mp hread
  rw [(place_of_spot hx).1] at hF
  obtain ⟨hshort, hl⟩ := look_eq_ok_iff.mp hlook
  exact read_eq_ok_iff.mpr
    ⟨l, spot_of_grows h hx, look_eq_ok_iff.mpr ⟨hshort, h.get?_of_not_mem hF hl⟩⟩

/-! ### Changing -/

/-- What was written is at the place of the path and is read back. -/
theorem write_ok (h : s.write p content = .ok s') :
    Grows (· = p.place s.here) s s' ∧ s'.read p = .ok content := by
  unfold write at h
  split at h
  · cases h
  · cases h
  · rename_i l hx
    split_ifs at h with hslash
    rw [bne_iff_ne, ne_eq, not_not] at hslash
    rw [hslash] at hx
    obtain ⟨hplace, hne⟩ := place_of_spot hx
    rw [hplace]
    have hput : ∀ o, s.look l = .ok o → o ≠ some .directory →
        s.put l (.file content) = s' → Grows (· = l) s s' ∧ s'.read p = .ok content := by
      rintro o hlook ho rfl
      obtain ⟨hshort, hl⟩ := look_eq_ok_iff.mp hlook
      have hgrows := grows_put_file (hne l rfl) (hl ▸ ho) content
      refine ⟨hgrows, read_eq_ok_iff.mpr
        ⟨l, spot_of_grows hgrows hx, look_eq_ok_iff.mpr ⟨hshort, ?_⟩⟩⟩
      rw [get?_put (hne l rfl), if_pos rfl]
    split at h
    · cases h
    · cases h
    · rename_i o ho hlook
      exact hput _ hlook (fun heq => ho (heq ▸ rfl)) (Except.ok.inj h)

theorem grows_createDirectory (h : s.createDirectory p = .ok s') (F : Location → Prop) :
    Grows F s s' := by
  unfold createDirectory at h
  split at h
  · cases h
  · cases h
  · rename_i l hx
    split at h
    · cases h
    · cases h
    · rename_i hlook
      obtain rfl := Except.ok.inj h
      exact grows_put_directory ((place_of_spot hx).2 l rfl) (look_eq_ok_iff.mp hlook).2 F

theorem grows_createWithin (F : Location → Prop) (n : Nat) (s : FileStore) (p : Path) :
    Grows F s (s.createWithin n p).1 := by
  induction n generalizing s p with
  | zero => exact Grows.refl F s
  | succ n ih =>
    unfold createWithin
    split
    · exact Grows.refl F s
    · split
      · rename_i hcreate
        exact grows_createDirectory hcreate F
      · split
        · exact Grows.refl F s
        · rename_i above _
          have habove := ih s above
          split
          · rename_i heq
            rwa [heq] at habove
          · rename_i s₁ heq
            rw [heq] at habove
            split
            · rename_i hcreate
              exact habove.trans (grows_createDirectory hcreate F)
            · exact habove
      · exact Grows.refl F s

theorem grows_createDirectories (F : Location → Prop) (s : FileStore) (p : Path) :
    Grows F s (s.createDirectories p).1 := grows_createWithin F _ s p

end Marginalia.FileStore
