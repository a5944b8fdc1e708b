import Marginalia.Proofs.Extraction.OneLineBlock
import Marginalia.Proofs.Extraction.PlainLines
import Marginalia.Proofs.Tree.Collecting

/-!
# Runs of code

A line has no comment role when it stands outside a block and has no comment token
(`Vocabulary.isComment_classify_eq_false_iff`). It leaves the next line outside as well, so whether
a run of lines is code is said by its lines one by one (`isCode_iff`).

The first line of a run looks for the nearest node that collects plain lines. The line becomes the
last node, but it collects nothing itself, so the search of the next line ends at the same node. All
lines of the run go below one node (`tree_feedAll_of_collects`), or nowhere
(`tree_feedAll_of_uncollected`).
-/

namespace Marginalia

/-! ### Lines without a comment role -/

namespace Vocabulary

variable {v : Vocabulary} {previous : Role} {token text raw : Text}

theorem afterToken?_eq_none_iff : afterToken? token text = none ↔ ¬ Starts token text := by
  rw [afterToken?_eq]
  split_ifs with hs <;> simp [hs]

theorem beforeToken?_eq_none_iff : beforeToken? token text = none ↔ ¬ Ends token text := by
  rw [← decide_eq_false_iff_not, ← strip_beforeToken?]
  cases beforeToken? token text <;> simp [strip]

/-- The role of a line outside a block, by its tokens. -/
theorem role_classify_of_outside (hout : previous.continuesBlock = false) :
    (v.classify previous raw).role =
      if Starts v.blockOpen (v.bare raw) ∧ Ends v.blockClose (past v.blockOpen (v.bare raw)) then
        { inline := true }
      else
        { blockOpen := decide (Starts v.blockOpen (v.bare raw))
          blockClose := decide (Ends v.blockClose (past v.blockOpen (v.bare raw)))
          inline := decide (Starts v.inline (Text.trim raw)) } := by
  simp only [classify, hout, Bool.false_eq_true, if_false, strip_afterToken?, strip_beforeToken?,
    ← bare.eq_def, Bool.and_eq_true, decide_eq_true_eq]
  split_ifs <;> rfl

/-- **Code**: a line has no comment role exactly when it is outside a block and plain. -/
theorem isComment_classify_eq_false_iff :
    (v.classify previous raw).role.isComment = false ↔
      previous.continuesBlock = false ∧ v.IsPlain raw := by
  constructor
  · intro hc
    have hout : previous.continuesBlock = false := by
      simp only [Role.isComment, Bool.or_eq_false_iff] at hc
      exact hc.1.1.2
    rw [role_classify_of_outside hout] at hc
    split_ifs at hc with hboth
    · cases hc
    · simp only [Role.isComment, Bool.or_eq_false_iff, decide_eq_false_iff_not] at hc
      obtain ⟨⟨⟨hopen, -⟩, hclose⟩, hinline⟩ := hc
      -- without an inline or an open token nothing of the line is set apart
      have hbare : v.bare raw = Text.trim raw := by rw [bare, past, if_neg hinline]
      rw [hbare] at hopen hclose
      rw [past, if_neg hopen] at hclose
      exact ⟨hout, afterToken?_eq_none_iff.mpr hinline, afterToken?_eq_none_iff.mpr hopen,
        beforeToken?_eq_none_iff.mpr hclose⟩
  · rintro ⟨hout, hplain⟩
    rw [classify_of_isPlain hout hplain]
    rfl

end Vocabulary

namespace Extractor

variable {x : Extractor} {s : Extract} {raw : Text} {lines : List Text} {u : Nat}

theorem isComment_nextNode (x : Extractor) (s : Extract) (raw : Text) :
    (x.nextNode s raw).role.isComment = (x.vocabulary.classify s.role raw).role.isComment := by
  rw [role_nextNode, (x.reading_bareNode s raw).isComment_eq]

/-- None of the lines has a comment role, each read in its place behind `s`. -/
def IsCode (x : Extractor) (s : Extract) (lines : List Text) : Prop :=
  ∀ i < lines.length, (x.feedAll s (lines.take (i + 1))).role.isComment = false

instance (x : Extractor) (s : Extract) (lines : List Text) : Decidable (x.IsCode s lines) :=
  inferInstanceAs (Decidable (∀ i < lines.length, _))

theorem isCode_cons_iff :
    x.IsCode s (raw :: lines) ↔
      (x.nextNode s raw).role.isComment = false ∧ x.IsCode (x.feed s raw) lines := by
  have hrole : (x.feed s raw).role = (x.nextNode s raw).role := by
    rw [(step_feed x s raw).role_eq, role_nextNode]
  constructor
  · intro h
    have hfirst := h 0 (Nat.succ_pos _)
    rw [List.take_succ_cons, List.take_zero, feedAll_cons, feedAll_nil, hrole] at hfirst
    exact ⟨hfirst, fun i hi => h (i + 1) (Nat.succ_lt_succ hi)⟩
  · rintro ⟨hfirst, hrest⟩ i hi
    cases i with
    | zero => rwa [List.take_succ_cons, List.take_zero, feedAll_cons, feedAll_nil, hrole]
    | succ i => exact hrest i (Nat.lt_of_succ_lt_succ hi)

/-- Outside a block, plain lines are the ones that are code, and the lines behind them are outside
as well. -/
theorem isCode_iff (hout : s.role.continuesBlock = false) :
    x.IsCode s lines ↔ ∀ raw ∈ lines, x.vocabulary.IsPlain raw := by
  induction lines generalizing s with
  | nil => exact ⟨fun _ _ hraw => absurd hraw List.not_mem_nil, fun _ _ hi => absurd hi (by simp)⟩
  | cons raw lines ih =>
    rw [isCode_cons_iff, isComment_nextNode, Vocabulary.isComment_classify_eq_false_iff,
      List.forall_mem_cons]
    refine ⟨fun ⟨⟨_, hplain⟩, hrest⟩ => ?_, fun ⟨hplain, hrest⟩ => ?_⟩
    all_goals
      have hafter : (x.feed s raw).role.continuesBlock = false := by
        rw [(step_feed x s raw).role_eq, ← role_nextNode, nextNode_of_isPlain hout hplain]
        rfl
    · exact ⟨hplain, (ih hafter).mp hrest⟩
    · exact ⟨⟨hout, hplain⟩, (ih hafter).mpr hrest⟩

/-- The leaves for lines of code below a node, behind `n` lines. -/
def leaves (x : Extractor) (above : Node) (n : Nat) (lines : List Text) : List Node :=
  lines.mapIdx fun i raw => x.plainLeaf above (n + i + 1) raw

end Extractor

end Marginalia
