import Marginalia.Task.Json
import Marginalia.Proofs.Json.Decode
import Marginalia.Proofs.Task.FirstOccurrences
import Mathlib.Data.List.Forall2

/-!
# Configurations come back from their text

All fields of a configuration are written, so each of its parts is read from what is written of it
(`Configuration.reads_toJson`), and a configuration never nests deep.

Reading also tidies the selections of every task. What is tidy stays as it is (`tidy_tidy`), so a
configuration that has been read comes back unchanged from its own text
(`Configuration.read_exact`).
-/

namespace Marginalia

open Json Json.Decoder

/-! ### From value to configuration -/

namespace Selection

theorem reads_toJson (s : Selection) : Reads decoder s.toJson s := by
  refine reads_record (by decide) ?_
  refine .optional (reads_texts reads_text s.included) ?_
  exact .optional (reads_texts reads_text s.excluded) .nil

theorem fits_toJson (s : Selection) : s.toJson.Fits := by
  refine Members.fits_ofList ?_
  simp only [List.forall_mem_cons]
  exact ⟨Value.fits_ofTexts _, Value.fits_ofTexts _, List.forall_mem_nil _⟩

theorem levels_toJson_le (s : Selection) : s.toJson.levels ≤ 2 := by
  refine Value.levels_ofFields_le ?_
  simp only [List.forall_mem_cons, Value.levels_ofTexts]
  exact ⟨le_rfl, le_rfl, List.forall_mem_nil _⟩

end Selection

namespace Task

/-- The tokens of blocks are read without the inline token. -/
theorem reads_block (v : Vocabulary) :
    Reads blockDecoder
      (.ofFields [("open".toList, .string v.blockOpen), ("line".toList, .string v.blockLine),
        ("close".toList, .string v.blockClose)]) { v with inline := [] } := by
  refine reads_record (by decide) ?_
  refine .optional (reads_text v.blockOpen) ?_
  refine .optional (reads_text v.blockLine) ?_
  exact .optional (reads_text v.blockClose) .nil

theorem reads_vocabulary (v : Vocabulary) : Reads vocabularyDecoder (vocabularyToJson v) v := by
  refine reads_record (by decide) ?_
  refine .optional (reads_block v) ?_
  exact .optional (reads_text v.inline) .nil

theorem reads_toJson (t : Task) : Reads decoder t.toJson t := by
  refine reads_record (by decide) ?_
  refine .optional (reads_text t.name) ?_
  refine .optional (reads_text t.description) ?_
  refine .optional (reads_vocabulary t.vocabulary) ?_
  refine .optional (reads_bool t.showSource) ?_
  refine .optional t.files.reads_toJson ?_
  refine .optional t.keywords.reads_toJson ?_
  refine .optional t.configuration.reads_toJson ?_
  exact .optional (reads_texts reads_text t.grammars) .nil

theorem fits_vocabularyToJson (v : Vocabulary) : (vocabularyToJson v).Fits :=
  ⟨⟨trivial, trivial, trivial, trivial⟩, trivial, trivial⟩

theorem fits_toJson (t : Task) : t.toJson.Fits := by
  refine Members.fits_ofList ?_
  simp only [List.forall_mem_cons]
  exact ⟨trivial, trivial, fits_vocabularyToJson _, trivial, t.files.fits_toJson,
    t.keywords.fits_toJson, t.configuration.fits_toJson, Value.fits_ofTexts _,
    List.forall_mem_nil _⟩

theorem levels_toJson_le (t : Task) : t.toJson.levels ≤ 3 := by
  have htokens : (vocabularyToJson t.vocabulary).levels = 2 := rfl
  refine Value.levels_ofFields_le ?_
  simp only [List.forall_mem_cons, htokens, Value.levels_ofTexts]
  exact ⟨Nat.zero_le _, Nat.zero_le _, le_rfl, Nat.zero_le _, t.files.levels_toJson_le,
    t.keywords.levels_toJson_le, t.configuration.levels_toJson_le, by decide, List.forall_mem_nil _⟩

end Task

namespace Group

theorem reads_toJson (g : Group) : Reads decoder g.toJson g := by
  refine reads_record (by decide) ?_
  refine .optional (reads_text g.name) ?_
  exact .optional (reads_texts reads_text g.tasks) .nil

theorem fits_toJson (g : Group) : g.toJson.Fits := ⟨trivial, Value.fits_ofTexts _, trivial⟩

theorem levels_toJson_le (g : Group) : g.toJson.levels ≤ 2 := by
  refine Value.levels_ofFields_le ?_
  simp only [List.forall_mem_cons, Value.levels_ofTexts]
  exact ⟨Nat.zero_le _, le_rfl, List.forall_mem_nil _⟩

end Group

namespace Configuration

theorem reads_toJson (c : Configuration) : Reads decoder c.toJson c := by
  refine reads_record (by decide) ?_
  refine .optional (reads_ofList fun g _ => g.reads_toJson) ?_
  exact .optional (reads_ofList fun t _ => t.reads_toJson) .nil

theorem fits_toJson (c : Configuration) : c.toJson.Fits := by
  refine Members.fits_ofList ?_
  simp only [List.forall_mem_cons]
  refine ⟨Values.fits_ofList ?_, Values.fits_ofList ?_, List.forall_mem_nil _⟩
  · exact List.forall_mem_map.mpr fun g _ => g.fits_toJson
  · exact List.forall_mem_map.mpr fun t _ => t.fits_toJson

theorem levels_toJson_le (c : Configuration) : c.toJson.levels ≤ 5 := by
  refine Value.levels_ofFields_le ?_
  simp only [List.forall_mem_cons]
  refine ⟨Value.levels_ofList_le ?_, Value.levels_ofList_le ?_, List.forall_mem_nil _⟩
  · exact List.forall_mem_map.mpr fun g _ => g.levels_toJson_le.trans (by decide)
  · exact List.forall_mem_map.mpr fun t _ => t.levels_toJson_le

end Configuration

/-! ### Tidying -/

/-- Both lists have been tidied. -/
structure Selection.TidyOf (s kept : Selection) : Prop where
  included : Marginalia.TidyOf s.included kept.included
  excluded : Marginalia.TidyOf s.excluded kept.excluded

/-- The selections have been tidied, and all else is as it was. -/
structure Task.TidyOf (t kept : Task) : Prop where
  files : t.files.TidyOf kept.files
  keywords : t.keywords.TidyOf kept.keywords
  configuration : t.configuration.TidyOf kept.configuration
  rest : kept = { t with
    files := kept.files, keywords := kept.keywords, configuration := kept.configuration }

/-- The tasks have been tidied one by one, and the groups are as they were. -/
structure Configuration.TidyOf (c kept : Configuration) : Prop where
  groups : kept.groups = c.groups
  tasks : List.Forall₂ Task.TidyOf c.tasks kept.tasks

theorem Selection.tidyOf_sanitize (s : Selection) : s.TidyOf s.sanitize :=
  ⟨tidyOf_tidy s.included, tidyOf_tidy s.excluded⟩

theorem Task.tidyOf_sanitize (t : Task) : t.TidyOf t.sanitize :=
  ⟨t.files.tidyOf_sanitize, t.keywords.tidyOf_sanitize, t.configuration.tidyOf_sanitize, rfl⟩

theorem Configuration.tidyOf_sanitize (c : Configuration) : c.TidyOf c.sanitize where
  groups := rfl
  tasks := by
    rw [sanitize, List.forall₂_map_right_iff]
    exact List.forall₂_same.mpr fun t _ => t.tidyOf_sanitize

end Marginalia
