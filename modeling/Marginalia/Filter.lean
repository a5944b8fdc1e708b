import Marginalia.Collapse
import Marginalia.Document
import Marginalia.Extraction

/-!
# Filters

A task may ask for keywords and refuse them, and it may allow and refuse annotations about the
file. `Task.violation?` tells the first demand that a file does not meet, in this order: a keyword
asked for, the keywords refused, the annotations allowed, the annotations refused. `Task.assemble`
makes the document of a file that meets them all.
-/

namespace Marginalia

/-- A demand of a task that a file does not meet. -/
inductive Violation where
  /-- None of the keywords asked for occurs. -/
  | noKeyword
  /-- A refused keyword occurs. -/
  | refusedKeyword (keyword : Text)
  /-- An annotation about the file is not allowed. -/
  | unknownConfiguration (keyword : Text)
  /-- An annotation about the file is refused. -/
  | refusedConfiguration (keyword : Text)
deriving DecidableEq, Repr, Inhabited

/-- The violation in words. -/
def Violation.message : Violation → Text
  | noKeyword => "keyword include not found".toList
  | refusedKeyword k => "keyword exclude found: ".toList ++ k
  | unknownConfiguration k => "configuration include not found: ".toList ++ k
  | refusedConfiguration k => "configuration exclude found: ".toList ++ k

namespace Task

/-- The first demand of the task that the file does not meet. -/
def violation? (task : Task) (tree : Tree) (configuration : List Node) : Option Violation :=
  let wanted := task.keywords.included
  let allowed := task.configuration.included
  if !wanted.isEmpty && (tree.findKeyword wanted).isNone then some .noKeyword
  else
    ((tree.findKeyword task.keywords.excluded).map .refusedKeyword) <|>
    ((configuration.find? fun n => !allowed.isEmpty && !allowed.contains n.keyword).map
      fun n => .unknownConfiguration n.keyword) <|>
    ((configuration.find? fun n => task.configuration.excluded.contains n.keyword).map
      fun n => .refusedConfiguration n.keyword)

/-- The document of a file, with every marked node collapsed, if the file meets the demands of the
task. -/
def assemble (task : Task) (timestamp : Text) (p : Parsed) : Except Violation Document :=
  match task.violation? p.tree p.configuration with
  | some v => .error v
  | none => .ok (.ofTree (.ofPath p.path timestamp) p.tree.collapse p.configuration)

end Task

end Marginalia
