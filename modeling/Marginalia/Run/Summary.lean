import Marginalia.Rendition
import Marginalia.Run
import Marginalia.Text.Ink

/-!
# Summaries of runs

A summary counts the files of a run and says which ones failed, and why.
-/

namespace Marginalia.Report

open Ink

/-- The report as JSON. -/
def toJson (r : Report) : Json.Value :=
  .ofFields [
    ("task".toList, .string r.task),
    ("output".toList, .string r.output),
    ("written".toList, .ofTexts r.written),
    ("failed".toList, .ofList (r.failures.map fun (path, e) =>
      .ofFields [("path".toList, .string path), ("error".toList, .string e.message)])),
    ("index".toList, match r.index with
      | none => .null
      | some path => .string path)]

/-- The report in words. -/
def outline (colored : Bool) (r : Report) : Text :=
  let skipped : Text := r.failures.flatMap fun (path, e) =>
    boldYellow.paint colored "SKIP".toList ++ ' ' :: dimmed.paint colored path ++ " - ".toList ++
      e.message ++ ['\n']
  let total := r.outcomes.length
  let count : Text :=
    "Task ".toList ++ cyan.paint colored r.task ++ ": ".toList ++ Text.ofNat r.written.length ++
      " of ".toList ++ Text.ofNat total ++ (if total = 1 then " file" else " files").toList ++
      " processed into ".toList ++ r.output ++ ['\n']
  let verdict : Text :=
    if r.passed then boldGreen.paint colored "OK".toList ++ " complete\n".toList
    else
      boldYellow.paint colored "WARN".toList ++ ' ' ::
        yellow.paint colored (Text.ofNat (total - r.written.length)) ++ " skipped\n".toList
  skipped ++ count ++ verdict

/-- The report in a rendition. -/
def render (rendition : Rendition) (colored : Bool) (r : Report) : Text :=
  rendition.apply (r.outline colored) r.toJson

end Marginalia.Report
