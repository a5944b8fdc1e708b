import Marginalia.Proofs.FileStore.Growth
import Marginalia.Proofs.Path.Descent

/-!
# Making directories

Directories are made from the bottom: the last one first, and if that is not possible because the
one above it is not there, the one above it first. What comes of it is said best from the top
(`opened`). From each directory one goes on to the next, which is made if there is nothing, until a
name is too long or a file is in the way. A directory that is there and one that is made are all the
same for what follows, so directories made meanwhile by others do not matter (`opened_congr`).

That the two ways come to the same (`createDirectories_eq`) holds for stores in which the
directories on the way to every item are listed and the working directory is there (`Rooted`).
-/

namespace Marginalia.FileStore

variable {s s' : FileStore} {l x : Location} {p : Path} {ns : List Text} {n : Text} {k : Nat}

/-! ### Rooted stores -/

/-- Every directory on the way to an item is there, and so is the working directory. -/
structure Rooted (s : FileStore) : Prop where
  above : ∀ l n, s.get? (l ++ [n]) ≠ none → s.get? l = some .directory
  here : s.get? s.here = some .directory

theorem mem_items_of_get? {i : Item} (hl : l ≠ []) (h : s.get? l = some i) : (l, i) ∈ s.items := by
  obtain ⟨n, ns, rfl⟩ := List.exists_cons_of_ne_nil hl
  obtain ⟨before, after, heq, -⟩ := List.lookup_eq_some_iff.mp h
  rw [heq]
  exact List.mem_append_right _ List.mem_cons_self

/-- It is enough to look at the items that are listed. -/
theorem rooted_of_items (h : ∀ e ∈ s.items, s.get? e.1.dropLast = some .directory)
    (hhere : s.get? s.here = some .directory) : Rooted s := by
  refine ⟨fun l n hne => ?_, hhere⟩
  obtain ⟨i, hi⟩ := Option.ne_none_iff_exists'.mp hne
  have hmem := mem_items_of_get? (List.append_ne_nil_of_right_ne_nil _ (List.cons_ne_nil _ _)) hi
  simpa using h _ hmem

theorem Rooted.get?_of_isPrefix (hs : Rooted s) {l' : Location} (hl : l <+: l') (hne : l ≠ l')
    (h : s.get? l' ≠ none) : s.get? l = some .directory := by
  obtain ⟨rest, rfl⟩ := hl
  induction rest using List.reverseRecOn with
  | nil => exact absurd (List.append_nil l).symm hne
  | append_singleton rest n ih =>
    rw [← List.append_assoc] at h
    have habove := hs.above _ _ h
    rcases eq_or_ne rest [] with rfl | hrest
    · rwa [List.append_nil] at habove
    · refine ih (fun heq => hrest (List.self_eq_append_right.mp heq)) ?_
      rw [habove]
      exact Option.some_ne_none _

/-- The lookup of a path starts at a directory. -/
theorem Rooted.get?_start (hs : Rooted s) (p : Path) :
    s.get? (Path.start s.here p) = some .directory := by
  rw [Path.start]
  split_ifs
  · rfl
  · exact hs.here

/-! ### From the top -/

/-- The directories that are there after those with the given names, each in the one before, were
made below a location, and whether all could be made. -/
def opened (s : FileStore) (l : Location) : List Text → List Location × Except FileError Unit
  | [] => ([], .ok ())
  | n :: ns =>
    match s.look (l ++ [n]) with
    | .error e => ([], .error e)
    | .ok (some (.file _)) => ([], .error (if ns.isEmpty then .alreadyExists else .notDirectory))
    | .ok _ => ((l ++ [n]) :: (s.opened (l ++ [n]) ns).1, (s.opened (l ++ [n]) ns).2)

/-- The error of a path that leads on from where an error was met. -/
def onward : FileError → FileError
  | .alreadyExists => .notDirectory
  | e => e

theorem look_eq_error {e : FileError} (h : s.look l = .error e) :
    e = .nameTooLong ∧ ∃ m ∈ l, nameLimit < byteCount m := by
  unfold look at h
  split_ifs at h with hlong
  exact ⟨(Except.error.inj h).symm, by simpa using hlong⟩

theorem short_of_look {o : Option Item} (h : s.look l = .ok o) :
    ∀ m ∈ l, byteCount m ≤ nameLimit := by
  simpa using (look_eq_ok_iff.mp h).1

theorem opened_concat (s : FileStore) (l : Location) (ns : List Text) (n : Text) :
    s.opened l (ns ++ [n]) =
      match (s.opened l ns).2 with
      | .error e => ((s.opened l ns).1, .error (onward e))
      | .ok () =>
        ((s.opened l ns).1 ++ (s.opened (l ++ ns) [n]).1, (s.opened (l ++ ns) [n]).2) := by
  induction ns generalizing l with
  | nil => simp [opened]
  | cons m ns ih =>
    rw [List.cons_append, opened, opened]
    rcases hlook : s.look (l ++ [m]) with e | (_ | (c | _))
    · rw [(look_eq_error hlook).1]
      rfl
    · dsimp only
      rw [ih]
      cases (s.opened (l ++ [m]) ns).2 <;> simp
    · cases ns <;> rfl
    · dsimp only
      rw [ih]
      cases (s.opened (l ++ [m]) ns).2 <;> simp

/-- A name is too long, a file is in the way, or one goes on from a directory that is there or
made. -/
theorem opened_cons (s : FileStore) (l : Location) (n : Text) (ns : List Text) :
    ((∃ m ∈ l ++ [n], nameLimit < byteCount m) ∧
        s.opened l (n :: ns) = ([], .error .nameTooLong)) ∨
      (∃ content, s.get? (l ++ [n]) = some (.file content) ∧
        s.opened l (n :: ns) =
          ([], .error (if ns.isEmpty then .alreadyExists else .notDirectory))) ∨
      ((∀ m ∈ l ++ [n], byteCount m ≤ nameLimit) ∧
        (s.get? (l ++ [n]) = none ∨ s.get? (l ++ [n]) = some .directory) ∧
        s.opened l (n :: ns) =
          ((l ++ [n]) :: (s.opened (l ++ [n]) ns).1, (s.opened (l ++ [n]) ns).2)) := by
  rw [opened]
  rcases hlook : s.look (l ++ [n]) with e | (_ | (content | _))
  · obtain ⟨rfl, hlong⟩ := look_eq_error hlook
    exact Or.inl ⟨hlong, rfl⟩
  · exact Or.inr (Or.inr ⟨short_of_look hlook, Or.inl (look_eq_ok_iff.mp hlook).2, rfl⟩)
  · exact Or.inr (Or.inl ⟨content, (look_eq_ok_iff.mp hlook).2, rfl⟩)
  · exact Or.inr (Or.inr ⟨short_of_look hlook, Or.inr (look_eq_ok_iff.mp hlook).2, rfl⟩)

theorem exists_of_mem_opened (hx : x ∈ (s.opened l ns).1) :
    ∃ ms, ms ≠ [] ∧ ms <+: ns ∧ x = l ++ ms ∧ (s.get? x = none ∨ s.get? x = some .directory) := by
  induction ns generalizing l with
  | nil => cases hx
  | cons n ns ih =>
    rcases s.opened_cons l n ns with ⟨-, heq⟩ | ⟨_, -, heq⟩ | ⟨-, hkind, heq⟩ <;> rw [heq] at hx
    · cases hx
    · cases hx
    · rcases List.mem_cons.mp hx with rfl | hx
      · exact ⟨[n], List.cons_ne_nil _ _, ⟨ns, rfl⟩, rfl, hkind⟩
      · obtain ⟨ms, -, hms, rfl, hx⟩ := ih hx
        exact ⟨n :: ms, List.cons_ne_nil _ _, (List.prefix_cons_inj n).mpr hms,
          (List.append_cons l n ms).symm, hx⟩

/-- Above a directory that is there is another one, or it is the first. -/
theorem above_mem_opened (hx : x ++ [n] ∈ (s.opened l ns).1) : x = l ∨ x ∈ (s.opened l ns).1 := by
  induction ns generalizing l with
  | nil => cases hx
  | cons m ns ih =>
    rcases s.opened_cons l m ns with ⟨-, heq⟩ | ⟨_, -, heq⟩ | ⟨-, -, heq⟩ <;> rw [heq] at hx ⊢
    · cases hx
    · cases hx
    · rcases List.mem_cons.mp hx with hfirst | hx
      · exact Or.inl (List.append_inj' hfirst rfl).1
      · exact Or.inr (List.mem_cons.mpr (ih hx))

/-- No name on the way to a directory that was there or made is too long. -/
theorem short_of_mem_opened (hx : x ∈ (s.opened l ns).1) : ∀ m ∈ x, byteCount m ≤ nameLimit := by
  induction ns generalizing l with
  | nil => cases hx
  | cons n ns ih =>
    rcases s.opened_cons l n ns with ⟨-, heq⟩ | ⟨_, -, heq⟩ | ⟨hshort, -, heq⟩ <;> rw [heq] at hx
    · cases hx
    · cases hx
    · rcases List.mem_cons.mp hx with rfl | hx
      · exact hshort
      · exact ih hx

/-- A directory on the way is there afterwards or there is an error, which is one of length only if
a name on the way to it is too long. -/
theorem mem_opened_or_error {ms : List Text} (hms : ms ≠ []) (hfront : ms <+: ns) :
    l ++ ms ∈ (s.opened l ns).1 ∨ ∃ e, (s.opened l ns).2 = .error e ∧
      (e = .nameTooLong → ∃ m ∈ l ++ ms, nameLimit < byteCount m) := by
  induction ns generalizing l ms with
  | nil => exact absurd (List.prefix_nil.mp hfront) hms
  | cons n ns ih =>
    obtain ⟨m, ms, rfl⟩ := List.exists_cons_of_ne_nil hms
    obtain ⟨rfl, htail⟩ := List.cons_prefix_cons.mp hfront
    rw [List.append_cons l m ms]
    rcases s.opened_cons l m ns with ⟨⟨long, hmem, hlong⟩, heq⟩ | ⟨_, -, heq⟩ | ⟨-, -, heq⟩ <;>
      rw [heq]
    · exact Or.inr ⟨_, rfl, fun _ => ⟨long, List.mem_append_left _ hmem, hlong⟩⟩
    · refine Or.inr ⟨_, rfl, fun h => ?_⟩
      split_ifs at h
    · rcases eq_or_ne ms [] with rfl | hne
      · rw [List.append_nil]
        exact Or.inl List.mem_cons_self
      · exact (ih hne htail).imp_left (List.mem_cons_of_mem _)

/-- If all directories can be made, then all of them are there afterwards. -/
theorem mem_opened_of_ok (h : (s.opened l ns).2 = .ok ()) :
    ∀ ms, ms ≠ [] → ms <+: ns → l ++ ms ∈ (s.opened l ns).1 := by
  intro ms hms hfront
  refine (mem_opened_or_error hms hfront).resolve_right ?_
  rintro ⟨e, he, -⟩
  rw [h] at he
  cases he

/-- If not all directories can be made, then a name is too long or a file is in the way. -/
theorem opened_error {e : FileError} (h : (s.opened l ns).2 = .error e) :
    (e = .nameTooLong ∧ ∃ m ∈ l ++ ns, nameLimit < byteCount m) ∨
      (e = .alreadyExists ∨ e = .notDirectory) ∧
        ∃ ms content, s.get? (l ++ ms) = some (.file content) ∧
          ∀ x ∈ (s.opened l ns).1, x <+: l ++ ms := by
  induction ns generalizing l with
  | nil => cases h
  | cons n ns ih =>
    rcases s.opened_cons l n ns with
      ⟨⟨long, hmem, hlong⟩, heq⟩ | ⟨content, hfile, heq⟩ | ⟨-, -, heq⟩ <;> rw [heq] at h ⊢
    · rw [List.append_cons l n ns]
      exact Or.inl ⟨(Except.error.inj h).symm, long, List.mem_append_left _ hmem, hlong⟩
    · obtain rfl := Except.error.inj h
      refine Or.inr ⟨?_, [n], content, hfile, List.forall_mem_nil _⟩
      split_ifs
      · exact Or.inl rfl
      · exact Or.inr rfl
    · rw [List.append_cons l n ns]
      refine (ih h).imp_right (And.imp_right ?_)
      rintro ⟨ms, content, hfile, hfront⟩
      rw [← List.append_cons l n ms] at hfile hfront
      refine ⟨n :: ms, content, hfile, List.forall_mem_cons.mpr ⟨?_, hfront⟩⟩
      rw [List.append_cons l n ms]
      exact List.prefix_append _ _

/-- Nothing has changed at a location, but a directory may have been made there. -/
def Kept (s s' : FileStore) (l : Location) : Prop :=
  s'.get? l = s.get? l ∨ s.get? l = none ∧ s'.get? l = some .directory

theorem opened_congr (h : ∀ ms, ms ≠ [] → ms <+: ns → Kept s s' (l ++ ms)) :
    s'.opened l ns = s.opened l ns := by
  induction ns generalizing l with
  | nil => rfl
  | cons n ns ih =>
    have hrest : s'.opened (l ++ [n]) ns = s.opened (l ++ [n]) ns := ih fun ms hms hfront => by
      rw [List.append_assoc]
      exact h ([n] ++ ms) (by simp) ((List.prefix_cons_inj n).mpr hfront)
    rw [opened, opened, hrest]
    by_cases hlong : ((l ++ [n]).any fun name => nameLimit < byteCount name) = true
    · rw [look, if_pos hlong, look, if_pos hlong]
    · rw [look, if_neg hlong, look, if_neg hlong]
      rcases h [n] (List.cons_ne_nil _ _) ⟨ns, rfl⟩ with heq | ⟨hnone, hdir⟩
      · rw [heq]
      · rw [hnone, hdir]

/-! ### Going down names -/

theorem foldlM_enter_pieces {pieces : List Text}
    (h : pieces.filterMap Path.component? = ns.map .name) (hns : ∀ n ∈ ns, Path.IsName n) :
    pieces.foldlM s.enter l = ns.foldlM s.enter l := by
  induction pieces generalizing ns l with
  | nil =>
    obtain rfl := List.map_eq_nil_iff.mp h.symm
    rfl
  | cons piece pieces ih =>
    cases hpiece : Path.component? piece with
    | none =>
      rw [List.filterMap_cons_none hpiece] at h
      have hstay : s.enter l piece = .ok l := by rw [enter, hpiece]
      rw [List.foldlM_cons, hstay]
      exact ih h hns
    | some c =>
      rw [List.filterMap_cons_some hpiece] at h
      obtain ⟨n, ns, rfl, rfl, htail⟩ := List.map_eq_cons_iff.mp h.symm
      obtain rfl := (Path.component?_eq_name_iff.mp hpiece).1
      rw [List.forall_mem_cons] at hns
      rw [List.foldlM_cons, List.foldlM_cons]
      exact congrArg (s.enter l piece >>= ·) (funext fun l => ih htail.symm hns.2)

/-- Going down ends where a directory would have to be made. -/
theorem foldlM_enter_eq (hns : ∀ n ∈ ns, Path.IsName n) :
    ns.foldlM s.enter l =
      if ∀ x ∈ (s.opened l ns).1, s.get? x ≠ none then
        match (s.opened l ns).2 with
        | .error e => .error (onward e)
        | .ok () => .ok (l ++ ns)
      else .error .notFound := by
  induction ns generalizing l with
  | nil => simp [opened]; rfl
  | cons n ns ih =>
    rw [List.forall_mem_cons] at hns
    rw [List.foldlM_cons, enter, hns.1.component?_eq, opened]
    rcases hlook : s.look (l ++ [n]) with e | (_ | (c | _))
    · obtain rfl := (look_eq_error hlook).1
      simp only [hlook, List.not_mem_nil, false_implies, implies_true, if_true, onward]
      rfl
    · have hnone := (look_eq_ok_iff.mp hlook).2
      simp only [hlook, List.forall_mem_cons, hnone, ne_eq, not_true, false_and, if_false]
      rfl
    · cases ns <;> simp only [hlook, List.not_mem_nil, false_implies, implies_true, if_true] <;> rfl
    · have hdir := (look_eq_ok_iff.mp hlook).2
      simp only [hlook, List.forall_mem_cons, hdir, ne_eq, reduceCtorEq, not_false_eq_true,
        true_and]
      rw [List.append_cons l n ns]
      exact ih hns.2

/-- Going down by names leads to the last directory, if it is there. -/
theorem enterAll_eq (hl : s.get? l = some .directory) (hns : ∀ n ∈ ns, Path.IsName n) :
    s.enterAll l ns =
      if ∀ x ∈ (s.opened l ns).1, s.get? x ≠ none then
        match (s.opened l ns).2 with
        | .error e => .error (onward e)
        | .ok () => .ok (l ++ ns)
      else .error .notFound := by
  rw [enterAll, foldlM_enter_eq hns]
  split_ifs with hthere
  · cases hopened : (s.opened l ns).2 with
    | error e => rfl
    | ok =>
      refine if_pos ?_
      rcases eq_or_ne ns [] with rfl | hne
      · rw [List.append_nil, hl]
      · have hmem := mem_opened_of_ok hopened ns hne List.prefix_rfl
        obtain ⟨-, -, -, -, hkind⟩ := exists_of_mem_opened hmem
        exact hkind.resolve_left (hthere _ hmem)
  · rfl

theorem contains_eq_false_of_isPrefix {q : Path} {c : Char} (h : q <+: p)
    (hp : p.contains c = false) : q.contains c = false := by
  rw [List.contains_eq_mem, decide_eq_false_iff_not] at hp ⊢
  exact fun hc => hp (h.subset hc)

theorem byteCount_le_of_isPrefix {q : Path} (h : q <+: p) : byteCount q ≤ byteCount p := by
  obtain ⟨rest, rfl⟩ := h
  rw [byteCount, byteCount, Utf8.encode, Utf8.encode, List.flatMap_append, List.length_append]
  exact Nat.le_add_right _ _

/-- The path goes down by the names from a directory. -/
structure DescendsFrom (s : FileStore) (l : Location) (p : Path) (ns : List Text) : Prop where
  descends : p.Descends ns
  start_eq : Path.start s.here p = l
  there : s.get? l = some .directory

theorem Rooted.descendsFrom (hs : Rooted s) (hp : p.Descends ns) :
    s.DescendsFrom (Path.start s.here p) p ns :=
  ⟨hp, rfl, hs.get?_start p⟩

namespace DescendsFrom

theorem place_eq (hp : s.DescendsFrom l p ns) : p.place s.here = l ++ ns := by
  rw [hp.descends.place_eq, hp.start_eq]

/-- The path above goes down from the same directory. -/
theorem exists_parent (hp : s.DescendsFrom l p (ns ++ [n])) :
    ∃ q, Path.parent? p = some q ∧ s.DescendsFrom l q ns ∧ q <+: p ∧ q.length < p.length := by
  obtain ⟨q, hq, hdown, habsolute, hfront, hlength⟩ := hp.descends.exists_parent
  exact ⟨q, hq, ⟨hdown, (Path.start_eq_of_isAbsolute_eq habsolute s.here).trans hp.start_eq,
    hp.there⟩, hfront, hlength⟩

/-- Without names the path leads to the directory itself, and it has no slashes to drop. -/
theorem spot_of_nil (hp : s.DescendsFrom l p []) (hne : p ≠ []) :
    s.spot p = .ok (.directory l) ∧ dropSlashes p = p := by
  have hstay : ∀ q : Path, (q = ['.'] ∨ q = ['/']) → s.DescendsFrom l q [] →
      s.spot q = .ok (.directory l) := by
    intro q hq hdown
    have hfold : (q.splitOn '/').foldlM s.enter l = .ok l := by
      rcases hq with rfl | rfl <;> rfl
    have hall := enterAll_eq_ok_iff.mpr ⟨hfold, hdown.there⟩
    rw [← hdown.start_eq] at hall ⊢
    rcases hq with rfl | rfl
    · exact congrArg (Except.map Spot.directory) hall
    · exact congrArg (Except.map Spot.directory) hall
  rcases hp.descends.eq_of_nil with rfl | rfl | rfl
  · exact absurd rfl hne
  · exact ⟨hstay _ (Or.inl rfl) hp, rfl⟩
  · exact ⟨hstay _ (Or.inr rfl) hp, rfl⟩

end DescendsFrom

theorem spot_eq (hp : p.Descends (ns ++ [n])) : s.spot p =
    if p.contains '\x00' then .error .zeroCharacter
    else if pathLimit < byteCount p then .error .nameTooLong
    else (s.enterAll (Path.start s.here p) ns).map fun l => .name (l ++ [n]) := by
  obtain ⟨init, hpieces, hinit⟩ := hp.exists_splitOn
  have hns : ∀ m ∈ ns, Path.IsName m := fun m hm => hp.isName (List.mem_append_left _ hm)
  have hn : Path.IsName n := hp.isName (List.mem_append_right _ List.mem_cons_self)
  have hempty : p.isEmpty = false := List.isEmpty_eq_false_iff.mpr hp.ne_nil
  simp only [spot, hempty, hpieces, List.getLast?_concat, Option.getD_some, hn.component?_eq,
    List.dropLast_concat, enterAll, foldlM_enter_pieces hinit hns, Bool.false_eq_true, if_false]

/-- A path leads on from the directories above its last name, if all of them are there. -/
theorem DescendsFrom.spot_eq_opened (hp : s.DescendsFrom l p (ns ++ [n]))
    (hzero : p.contains '\x00' = false) (hlimit : ¬ pathLimit < byteCount p) :
    s.spot p =
      if ∀ x ∈ (s.opened l ns).1, s.get? x ≠ none then
        match (s.opened l ns).2 with
        | .error e => .error (onward e)
        | .ok () => .ok (.name (l ++ ns ++ [n]))
      else .error .notFound := by
  have hns : ∀ m ∈ ns, Path.IsName m := fun m hm =>
    hp.descends.isName (List.mem_append_left _ hm)
  rw [spot_eq hp.descends, hzero, if_neg Bool.false_ne_true, if_neg hlimit, hp.start_eq,
    enterAll_eq hp.there hns]
  split_ifs
  · cases (s.opened l ns).2 <;> rfl
  · rfl

/-! ### From the bottom -/

/-- The directories are there, and otherwise nothing has changed. -/
structure Opens (ls : List Location) (s s' : FileStore) : Prop where
  here : s'.here = s.here
  item : ∀ x, s'.get? x = if x ∈ ls then some .directory else s.get? x

theorem opens_nil (s : FileStore) : Opens [] s s :=
  ⟨rfl, fun _ => (if_neg List.not_mem_nil).symm⟩

/-- Directories that are there need not be made. -/
theorem opens_of_there (h : ∀ x ∈ (s.opened l ns).1, s.get? x ≠ none) :
    Opens (s.opened l ns).1 s s := by
  refine ⟨rfl, fun x => ?_⟩
  split_ifs with hx
  · obtain ⟨-, -, -, -, hdir⟩ := exists_of_mem_opened hx
    exact hdir.resolve_left (h x hx)
  · rfl

theorem Opens.kept (h : Opens (s.opened l ns).1 s s') (x : Location) : Kept s s' x := by
  rw [Kept, h.item]
  split_ifs with hx
  · obtain ⟨-, -, -, -, hnone | hdir⟩ := exists_of_mem_opened hx
    · exact Or.inr ⟨hnone, rfl⟩
    · exact Or.inl hdir.symm
  · exact Or.inl rfl

/-- A path goes down from the same directory when others were made. -/
theorem Opens.descendsFrom {ms : List Text} (h : Opens (s.opened l ms).1 s s')
    (hp : s.DescendsFrom l p ns) : s'.DescendsFrom l p ns := by
  refine ⟨hp.descends, h.here ▸ hp.start_eq, ?_⟩
  rcases h.kept l with heq | ⟨-, hdir⟩
  · rw [heq, hp.there]
  · exact hdir

theorem Opens.spot_eq (h : Opens (s.opened l ns).1 s s') (hp : s.DescendsFrom l p (ns ++ [n]))
    (hzero : p.contains '\x00' = false) (hlimit : ¬ pathLimit < byteCount p)
    (hok : (s.opened l ns).2 = .ok ()) : s'.spot p = .ok (.name (l ++ ns ++ [n])) := by
  have habove : s'.opened l ns = s.opened l ns := opened_congr fun ms _ _ => h.kept (l ++ ms)
  have hthere : ∀ x ∈ (s'.opened l ns).1, s'.get? x ≠ none := by
    intro x hx
    rw [h.item, if_pos (habove ▸ hx)]
    exact Option.some_ne_none _
  rw [(h.descendsFrom hp).spot_eq_opened hzero hlimit, if_pos hthere, habove, hok]

/-- A directory made when those above it are there. -/
def madeLast (s : FileStore) (p : Path) : FileStore × Except FileError Unit :=
  match s.createDirectory p with
  | .ok s => (s, .ok ())
  | .error e => (s, if s.isDirectory p then .ok () else .error e)

theorem createWithin_of_there (hp : p ≠ []) (h : s.createDirectory p ≠ .error .notFound) :
    s.createWithin (k + 1) p = s.madeLast p := by
  rw [createWithin, if_neg fun hnil => hp (List.isEmpty_iff.mp hnil), madeLast]
  split
  · rename_i heq
    rw [heq]
  · rename_i heq
    exact absurd heq h
  · rename_i heq
    rw [heq]

theorem createWithin_of_missing {q : Path} (hp : p ≠ [])
    (h : s.createDirectory p = .error .notFound) (hq : Path.parent? p = some q) :
    s.createWithin (k + 1) p =
      match (s.createWithin k q).2 with
      | .error e => ((s.createWithin k q).1, .error e)
      | .ok () => (s.createWithin k q).1.madeLast p := by
  rw [createWithin, if_neg fun hnil => hp (List.isEmpty_iff.mp hnil), h]
  simp only [hq]
  rcases s.createWithin k q with ⟨s₁, e | u⟩
  · rfl
  · rfl

theorem madeLast_of_spot_error {e : FileError} (hslash : dropSlashes p = p)
    (h : s.spot p = .error e) :
    s.createDirectory p = .error e ∧ s.madeLast p = (s, .error e) := by
  have hcreate : s.createDirectory p = .error e := by simp only [createDirectory, hslash, h]
  have hno : s.isDirectory p = false := by simp only [isDirectory, item?, h]
  simp only [madeLast, hcreate, hno, Bool.false_eq_true, if_false, and_self]

theorem madeLast_of_spot (hslash : dropSlashes p = p) (h : s.spot p = .ok (.name (l ++ [n]))) :
    s.createDirectory p ≠ .error .notFound ∧ (s.madeLast p).2 = (s.opened l [n]).2 ∧
      Opens (s.opened l [n]).1 s (s.madeLast p).1 := by
  have hne : l ++ [n] ≠ [] := List.append_ne_nil_of_right_ne_nil _ (List.cons_ne_nil _ _)
  rcases hlook : s.look (l ++ [n]) with e | (_ | (c | _))
  · have hcreate : s.createDirectory p = .error e := by
      simp only [createDirectory, hslash, h, hlook]
    have hno : s.isDirectory p = false := by simp only [isDirectory, item?, h, hlook]
    obtain rfl := (look_eq_error hlook).1
    simp only [madeLast, hcreate, hno, opened, hlook]
    exact ⟨by simp, rfl, opens_nil s⟩
  · have hcreate : s.createDirectory p = .ok (s.put (l ++ [n]) .directory) := by
      simp only [createDirectory, hslash, h, hlook]
    simp only [madeLast, hcreate, opened, hlook]
    refine ⟨by simp, trivial, rfl, fun x => ?_⟩
    simp only [get?_put hne, List.mem_singleton]
  · have hcreate : s.createDirectory p = .error .alreadyExists := by
      simp only [createDirectory, hslash, h, hlook]
    have hno : s.isDirectory p = false := by simp only [isDirectory, item?, h, hlook]
    simp only [madeLast, hcreate, hno, opened, hlook]
    exact ⟨by simp, rfl, opens_nil s⟩
  · have hcreate : s.createDirectory p = .error .alreadyExists := by
      simp only [createDirectory, hslash, h, hlook]
    have hyes : s.isDirectory p = true := by simp only [isDirectory, item?, h, hlook]
    simp only [madeLast, hcreate, hyes, opened, hlook]
    refine ⟨by simp, rfl, rfl, fun x => ?_⟩
    simp only [List.mem_singleton]
    split_ifs with hx
    · rw [hx, (look_eq_ok_iff.mp hlook).2]
    · rfl

/-- Once the directories above are there, only the last one is left to make. -/
theorem madeLast_eq (hp : s.DescendsFrom l p (ns ++ [n])) (hzero : p.contains '\x00' = false)
    (hlimit : ¬ pathLimit < byteCount p) (hok : (s.opened l ns).2 = .ok ())
    (h : Opens (s.opened l ns).1 s s') :
    s'.createDirectory p ≠ .error .notFound ∧
      (s'.madeLast p).2 = (s.opened l (ns ++ [n])).2 ∧
      Opens (s.opened l (ns ++ [n])).1 s (s'.madeLast p).1 := by
  have hbelow : s'.opened (l ++ ns) [n] = s.opened (l ++ ns) [n] :=
    opened_congr fun ms _ _ => h.kept (l ++ ns ++ ms)
  obtain ⟨hfound, hr, hopens⟩ :=
    madeLast_of_spot hp.descends.dropSlashes_eq (h.spot_eq hp hzero hlimit hok)
  rw [hbelow] at hr hopens
  rw [opened_concat, hok]
  refine ⟨hfound, hr, hopens.here.trans h.here, fun x => ?_⟩
  rw [hopens.item, h.item]
  simp only [List.mem_append]
  split_ifs <;> tauto

/-- In a rooted store no directory is missing on the way to a file that is in the way. -/
theorem Rooted.there_of_error (hs : Rooted s) {e : FileError} (he : (s.opened l ns).2 = .error e)
    (hne : e ≠ .nameTooLong) : ∀ x ∈ (s.opened l ns).1, s.get? x = some .directory := by
  obtain ⟨-, ms, content, hfile, hfront⟩ := (opened_error he).resolve_left fun h => hne h.1
  intro x hx
  obtain ⟨-, -, -, -, hnone | hdir⟩ := exists_of_mem_opened hx
  · refine hs.get?_of_isPrefix (hfront x hx) ?_ (hfile ▸ Option.some_ne_none _)
    rintro rfl
    rw [hfile] at hnone
    cases hnone
  · exact hdir

theorem Rooted.onward_eq (hs : Rooted s) {e : FileError} (he : (s.opened l ns).2 = .error e)
    (hmissing : ¬ ∀ x ∈ (s.opened l ns).1, s.get? x ≠ none) : onward e = e := by
  by_cases hne : e = .nameTooLong
  · rw [hne]
    rfl
  · refine absurd (fun x hx => ?_) hmissing
    rw [hs.there_of_error he hne x hx]
    exact Option.some_ne_none _

/-- What is made from the bottom is what is opened from the top. -/
theorem createWithin_eq (hs : Rooted s) (hp : s.DescendsFrom l p ns)
    (hzero : p.contains '\x00' = false) (hlimit : ¬ pathLimit < byteCount p) (hk : p.length < k) :
    (s.createWithin k p).2 = (s.opened l ns).2 ∧
      Opens (s.opened l ns).1 s (s.createWithin k p).1 := by
  obtain ⟨k, rfl⟩ := Nat.exists_eq_add_one_of_ne_zero (Nat.ne_zero_of_lt hk)
  induction ns using List.reverseRecOn generalizing p k with
  | nil =>
    rcases eq_or_ne p [] with rfl | hne
    · exact ⟨rfl, opens_nil s⟩
    · obtain ⟨hspot, hslash⟩ := hp.spot_of_nil hne
      have hcreate : s.createDirectory p = .error .alreadyExists := by
        simp only [createDirectory, hslash, hspot]
      have hyes : s.isDirectory p = true := by simp only [isDirectory, item?, hspot]
      rw [createWithin_of_there hne (by simp [hcreate])]
      simp only [madeLast, hcreate, hyes, if_true]
      exact ⟨rfl, opens_nil s⟩
  | append_singleton ns n ih =>
    have hspot := hp.spot_eq_opened hzero hlimit
    by_cases hthere : ∀ x ∈ (s.opened l ns).1, s.get? x ≠ none
    · rw [if_pos hthere] at hspot
      cases hopened : (s.opened l ns).2 with
      | ok =>
        obtain ⟨hfound, hmade⟩ := madeLast_eq hp hzero hlimit hopened (opens_of_there hthere)
        rw [createWithin_of_there hp.descends.ne_nil hfound]
        exact hmade
      | error e =>
        -- a file or a long name is in the way of the directories above already
        rw [hopened] at hspot
        obtain ⟨hcreate, hmade⟩ := madeLast_of_spot_error hp.descends.dropSlashes_eq hspot
        have hfound : s.createDirectory p ≠ .error .notFound := by
          rw [hcreate]
          rcases opened_error hopened with ⟨rfl, -⟩ | ⟨rfl | rfl, -⟩ <;> simp [onward]
        rw [createWithin_of_there hp.descends.ne_nil hfound, hmade, opened_concat, hopened]
        exact ⟨rfl, opens_of_there hthere⟩
    · rw [if_neg hthere] at hspot
      have hcreate := (madeLast_of_spot_error hp.descends.dropSlashes_eq hspot).1
      obtain ⟨q, hq, hdown, hfront, hlength⟩ := hp.exists_parent
      obtain ⟨k, rfl⟩ : ∃ j, k = j + 1 := Nat.exists_eq_add_one_of_ne_zero (by omega)
      obtain ⟨hr, hopens⟩ := ih hdown (contains_eq_false_of_isPrefix hfront hzero)
        (fun hlong => hlimit (hlong.trans_le (byteCount_le_of_isPrefix hfront))) k (by omega)
      rw [createWithin_of_missing hp.descends.ne_nil hcreate hq, hr]
      cases hopened : (s.opened l ns).2 with
      | ok => exact (madeLast_eq hp hzero hlimit hopened hopens).2
      | error e =>
        have honward := hs.onward_eq hopened hthere
        rw [opened_concat, hopened]
        exact ⟨congrArg Except.error honward.symm, hopens⟩

/-- **Making directories**: those that are there in the end, and how it ends. -/
theorem createDirectories_eq (hs : Rooted s) (hp : s.DescendsFrom l p ns)
    (hzero : p.contains '\x00' = false) (hlimit : ¬ pathLimit < byteCount p) :
    (s.createDirectories p).2 = (s.opened l ns).2 ∧
      Opens (s.opened l ns).1 s (s.createDirectories p).1 :=
  createWithin_eq hs hp hzero hlimit (Nat.lt_succ_self _)

/-- No directory is made for a path that cannot be looked up at all. -/
theorem exists_createDirectories_error (hp : p.Descends ns)
    (h : p.contains '\x00' = true ∨ pathLimit < byteCount p) :
    ∃ e, (e = .nameTooLong → pathLimit < byteCount p) ∧
      ∀ s : FileStore, s.createDirectories p = (s, .error e) := by
  rcases List.eq_nil_or_concat' ns with rfl | ⟨ns, n, rfl⟩
  · rcases hp.eq_of_nil with rfl | rfl | rfl
    · exact absurd h (by decide)
    · exact absurd h (by decide)
    · exact absurd h (by decide)
  · obtain ⟨e, hne, hlong, hspot⟩ : ∃ e, e ≠ FileError.notFound ∧
        (e = .nameTooLong → pathLimit < byteCount p) ∧ ∀ s : FileStore, s.spot p = .error e := by
      by_cases hzero : p.contains '\x00' = true
      · exact ⟨.zeroCharacter, by simp, by simp, fun s => by rw [spot_eq hp, if_pos hzero]⟩
      · have hlimit := h.resolve_left hzero
        refine ⟨.nameTooLong, by simp, fun _ => hlimit, fun s => ?_⟩
        rw [spot_eq hp, if_neg hzero, if_pos hlimit]
    refine ⟨e, hlong, fun s => ?_⟩
    obtain ⟨hcreate, hmade⟩ := madeLast_of_spot_error hp.dropSlashes_eq (hspot s)
    rw [createDirectories, createWithin_of_there hp.ne_nil, hmade]
    rw [hcreate]
    simpa using hne

end Marginalia.FileStore
