import Marginalia.Proofs.Grammar.Untouched

/-!
# What grammars may touch

Grammars assign to the fields with a name and to nothing else of a node. After assignments, a field
that was assigned holds the same in any two nodes, and one that was not holds what it did
(`read_carryOut_congr`, `read_carryOut_of_not_mem`).

Since the value of a node decides what is assigned to it, grammars change the fields of nodes with
equal values alike or leave them alone in both. They leave alone what none of the grammars for the
extension sets, and all of a node that is not offered to them (`Grammars.apply_confined`).
-/

namespace Marginalia

namespace Grammar

variable {as : List Assignment} {field : Field}

theorem read_carryOut_of_not_mem (h : field ∉ as.map Assignment.field) (n : Node) :
    field.read (carryOut as n) = field.read n :=
  carryOut_same (f := field.read) (fun _ ha =>
    Field.read_assign_of_ne fun heq => h (heq ▸ List.mem_map_of_mem ha)) n

theorem read_carryOut_congr (h : field ∈ as.map Assignment.field) (n n' : Node) :
    field.read (carryOut as n) = field.read (carryOut as n') := by
  induction as generalizing n n' with
  | nil => cases h
  | cons a as ih =>
    rw [carryOut_cons, carryOut_cons]
    by_cases hlater : field ∈ as.map Assignment.field
    · exact ih hlater _ _
    · -- the first assignment is the last one to the field
      rw [List.map_cons, List.mem_cons, or_iff_left hlater] at h
      rw [read_carryOut_of_not_mem hlater, read_carryOut_of_not_mem hlater, h]
      exact Field.read_assign_self a.field n n' a.text

end Grammar

namespace Grammars

variable {grammars : Grammars} {extension : Text} {n : Node}

/-- The grammars for files with the extension. -/
def registered (grammars : Grammars) (extension : Text) : Grammars :=
  grammars.filter (·.hasExtension extension)

theorem apply_registered (grammars : Grammars) (extension : Text) (n : Node) :
    (registered grammars extension).apply extension n = grammars.apply extension n := by
  rw [apply, apply, registered, List.filter_filter]
  simp only [Bool.and_self]

/-- Grammars carry out what the value of the node makes them assign. -/
theorem apply_eq_carryOut (hkeyword : n.hasKeyword = false) (hvalue : n.hasValue = true) :
    grammars.apply extension n =
      Grammar.carryOut (assigned (registered grammars extension) n.value) n := by
  rw [apply, hkeyword, hvalue, if_neg (by decide), foldl_apply_eq, registered]

theorem apply_of_keyword_ne_nil (h : n.keyword ≠ []) : grammars.apply extension n = n := by
  by_cases hc : n.configuration = true
  · exact apply_of_hasValue_eq_false (by rw [Node.hasValue, hc, Bool.not_true, Bool.and_false])
  · have hkeyword : n.hasKeyword = true := by
      simp [Node.hasKeyword, hc, h]
    rw [apply, hkeyword, Bool.true_or, if_pos rfl]

theorem apply_of_registered_eq_nil (h : registered grammars extension = []) :
    grammars.apply extension n = n := by
  rw [registered] at h
  rw [apply, h]
  split_ifs <;> rfl

/-- **Grammars are confined**: they keep the marks and the role of a node, and all of it if it is
about the file, has a keyword or no value, or no grammar is for the extension. They keep a field
that no grammar for the extension sets. To a node that they are offered they assign what its value
decides, so in two nodes with equal values they leave equal values, and every other field is equal
in both or as it was in both. -/
theorem apply_confined (grammars : Grammars) (extension : Text) :
    let offered := registered grammars extension
    (∀ n, (grammars.apply extension n).marks = n.marks) ∧
      (∀ n, n.configuration = true ∨ n.keyword ≠ [] ∨ n.value = [] ∨ offered = [] →
        grammars.apply extension n = n) ∧
      (∀ field, field ∉ targets offered → ∀ n,
        field.read (grammars.apply extension n) = field.read n) ∧
      (∀ n, n.hasKeyword = false → n.hasValue = true →
        grammars.apply extension n = Grammar.carryOut (assigned offered n.value) n) ∧
      ∀ n n', n.hasKeyword = false → n.hasValue = true → n'.hasKeyword = false →
        n'.hasValue = true → n.value = n'.value →
          (grammars.apply extension n).value = (grammars.apply extension n').value ∧
            ∀ field : Grammar.Field,
              field.read (grammars.apply extension n) =
                  field.read (grammars.apply extension n') ∨
                (field.read (grammars.apply extension n) = field.read n ∧
                  field.read (grammars.apply extension n') = field.read n') := by
  intro offered
  refine ⟨marks_apply grammars extension, fun n h => ?_, fun field hfield n => ?_,
    fun n hk hv => apply_eq_carryOut hk hv, fun n n' hk hv hk' hv' hvalue => ?_⟩
  · rcases h with h | h | h | h
    · exact apply_of_hasValue_eq_false (by rw [Node.hasValue, h, Bool.not_true, Bool.and_false])
    · exact apply_of_keyword_ne_nil h
    · exact apply_of_hasValue_eq_false (by rw [Node.hasValue, h]; rfl)
    · exact apply_of_registered_eq_nil h
  · rw [← apply_registered]
    exact read_apply hfield extension n
  · rw [apply_eq_carryOut hk hv, apply_eq_carryOut hk' hv', ← hvalue]
    refine ⟨?_, fun field => ?_⟩
    · rw [Grammar.value_carryOut, Grammar.value_carryOut, hvalue]
    · by_cases hmem : field ∈ (assigned offered n.value).map Grammar.Assignment.field
      · exact Or.inl (Grammar.read_carryOut_congr hmem n n')
      · exact Or.inr ⟨Grammar.read_carryOut_of_not_mem hmem n,
          Grammar.read_carryOut_of_not_mem hmem n'⟩

/-- Two rules, of which the second one finds what the first one has left, and a nested one; a
grammar for other files would set the line. -/
theorem apply_confined_two_rules :
    let whole : Pattern := ⟨["x".toList], fun t => some ⟨[("x".toList, t)]⟩⟩
    let named : Grammar.Rules Pattern :=
      .cons whole (.assign "x".toList [(.keyword, "{{x}}".toList)] .nil) .nil
    let g : Grammar :=
      { extensions := ["c".toList]
        rules := .cons whole (.assign "x".toList [(.index, "7".toList), (.value, "a,b".toList)]
            (.refine "x".toList named .nil))
          (.cons whole (.assign "x".toList [(.flags, "{{x}}".toList)] .nil) .nil) }
    let other : Grammar :=
      { extensions := ["h".toList]
        rules := .cons whole (.assign "x".toList [(.line, "40".toList)] .nil) .nil }
    let apply : Node → Node := Grammars.apply [g, other] "c".toList
    let n : Node := { line := 3, index := 1, value := ['v'] }
    let n' : Node := { line := 9, index := 4, parent := 2, value := ['v'], separator := true }
    apply n' = { n' with
        index := 7, value := "a,b".toList, keyword := ['v'], flags := [['a'], ['b']] } ∧
      apply { n with keyword := ['k'] } = { n with keyword := ['k'] } ∧
      Grammar.Field.line.read (apply n) = .number 3 ∧ (apply n).value = (apply n').value := by
  intro whole named g other apply n n'
  obtain ⟨-, huntouched, hkept, -, hequal⟩ := apply_confined [g, other] "c".toList
  refine ⟨by decide +kernel, huntouched _ (Or.inr (Or.inl (List.cons_ne_nil _ _))), ?_, ?_⟩
  · exact hkept .line (by decide +kernel) n
  · exact (hequal n n' rfl rfl rfl rfl rfl).1

end Grammars

end Marginalia
