import Marginalia.Proofs.Grammar.Assignments

/-!
# What grammars read

Of a node, grammars read the value and nothing else, and what they assign is made of captured text.
So they cannot tell nodes apart that have the same value: a relation between nodes that asks for
equal values, and goes on to hold when one text is assigned to a field of both (`Respected`), holds
between what the grammars of a task make of them (`Grammars.apply_respected`).
-/

namespace Marginalia

variable {R : Node → Node → Prop} {n n' : Node}

namespace Grammar

/-- Related nodes have the same value, and they stay related when one text is assigned to a field of
both. -/
structure Respected (R : Node → Node → Prop) : Prop where
  value_eq : ∀ n n', R n n' → n.value = n'.value
  assign : ∀ n n', R n n' → ∀ (field : Field) (text : Text),
    R (field.assign n text) (field.assign n' text)

theorem carryOut_respected (h : Respected R) (as : List Assignment) (hn : R n n') :
    R (carryOut as n) (carryOut as n') := by
  induction as generalizing n n' with
  | nil => exact hn
  | cons a as ih =>
    rw [carryOut_cons, carryOut_cons]
    exact ih (h.assign n n' hn a.field a.text)

end Grammar

/-- **Grammars** that are offered both of two related nodes leave them related. -/
theorem Grammars.apply_respected (h : Grammar.Respected R) (grammars : Grammars)
    (extension : Text) (hn : R n n') (hkeyword : n.hasKeyword = n'.hasKeyword)
    (hvalue : n.hasValue = n'.hasValue) :
    R (grammars.apply extension n) (grammars.apply extension n') := by
  unfold apply
  rw [hkeyword, hvalue]
  split_ifs
  · exact hn
  · rw [foldl_apply_eq, foldl_apply_eq, h.value_eq n n' hn]
    exact Grammar.carryOut_respected h _ hn

end Marginalia
