import Marginalia.Document.Json
import Marginalia.Rendition
import Marginalia.Text.Ink

/-!
# Outlines of documents

An outline names the source file, lists the annotations about it, and shows every entry on a line of
its own, indented by its depth, with its value on the lines below it.
-/

namespace Marginalia

open Ink

/-- What stands for an entry in an outline: its keyword, or a mark. -/
def Entry.label (colored : Bool) (e : Entry) : Text :=
  if e.separator then dimmed.paint colored "--".toList
  else if e.keyword.isEmpty then dimmed.paint colored ['·']
  else cyan.paint colored e.keyword

/-- The lines of an entry in an outline. -/
def Entry.outline (colored : Bool) (depth : Nat) (e : Entry) : Text :=
  let margin := List.replicate (2 * depth) ' '
  let flags : Text :=
    if e.flags.isEmpty then []
    else " [".toList ++ yellow.paint colored (Text.join ", ".toList e.flags) ++ [']']
  margin ++ e.label colored ++ ' ' ::
    dimmed.paint colored ("(line ".toList ++ Text.ofNat e.line ++ [')']) ++ flags ++ ['\n'] ++
    (Text.lines e.value).flatMap fun l => margin ++ ' ' :: ' ' :: l ++ ['\n']

namespace Document

/-- The line about the source file. -/
def heading (colored : Bool) (o : Origin) : Text :=
  bold.paint colored (o.directory ++ '/' :: o.name ++ '.' :: o.extension) ++ " (".toList ++
    dimmed.paint colored o.timestamp ++ [')', '\n']

/-- The document as an outline. -/
def outline (colored : Bool) (d : Document) : Text :=
  let configuration : Text :=
    if d.configuration.isEmpty then []
    else "  Configuration:\n".toList ++ d.configuration.trees.flatMap fun (e, _) =>
      "    ".toList ++ cyan.paint colored e.keyword ++ ' ' :: e.value ++ ['\n']
  heading colored d.origin ++ configuration ++
    "\n  Data (".toList ++ Text.ofNat d.data.count ++ "):\n".toList ++
    (d.data.preorderFrom 2).flatMap fun (depth, e) => e.outline colored depth

/-- The document in a rendition. -/
def render (r : Rendition) (colored : Bool) (d : Document) : Text :=
  r.apply (d.outline colored) d.toJson

end Document

end Marginalia
