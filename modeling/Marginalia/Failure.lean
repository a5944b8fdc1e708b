import Marginalia.FileStore
import Marginalia.Filter
import Marginalia.Glob
import Marginalia.Json.Error
import Marginalia.Regex.Error

/-!
# Failures

All that can go wrong, with its causes. `Failure.message` puts a failure into words,
`Failure.cause?` tells the cause beneath it alone.
-/

namespace Marginalia

/-- What can go wrong. -/
inductive Failure where
  /-- A directory could not be used. -/
  | directory (e : FileError)
  /-- A file could not be read. -/
  | read (path : Path) (e : FileError)
  /-- A file could not be written. -/
  | write (path : Path) (e : FileError)
  /-- A file does not meet the demands of its task. -/
  | filter (path : Path) (v : Violation)
  /-- A grammar could not be loaded. -/
  | grammar (name reason : Text)
  /-- A grammar has a faulty pattern. -/
  | pattern (pattern : Text) (e : Regex.PatternError)
  /-- A task has a faulty file pattern. -/
  | files (pattern : Text) (e : Glob.Error)
  /-- A file is no configuration. -/
  | configuration (path : Path) (reason : Text)
  /-- There is no task with the name. -/
  | unknownTask (name : Text)
  /-- There is no group with the name. -/
  | unknownGroup (name : Text)
  /-- A text is not the JSON wanted. -/
  | json (e : Json.Error)
deriving DecidableEq, Repr, Inhabited

namespace Failure

/-- The failure in words. -/
def message : Failure → Text
  | directory e => "IO error: ".toList ++ e.message
  | read path e => "Failed to read file ".toList ++ path ++ ": ".toList ++ e.message
  | write path e => "Failed to write file ".toList ++ path ++ ": ".toList ++ e.message
  | filter path v => "Filter rejected ".toList ++ path ++ ": ".toList ++ v.message
  | grammar name reason => "Failed to load grammar `".toList ++ name ++ "`: ".toList ++ reason
  | pattern p e => "Invalid grammar pattern `".toList ++ p ++ "`: ".toList ++ e.message
  | files p e => "Invalid file pattern `".toList ++ p ++ "`: ".toList ++ e.message
  | configuration path reason =>
    "Failed to read configuration ".toList ++ path ++ ": ".toList ++ reason
  | unknownTask name => '`' :: name ++ "` is not a valid task".toList
  | unknownGroup name => '`' :: name ++ "` is not a valid group".toList
  | json e => "JSON serialization error: ".toList ++ e.message

/-- The cause beneath the failure in words, if it has one of its own. -/
def cause? : Failure → Option Text
  | directory e | read _ e | write _ e => some e.message
  | pattern _ e => some e.message
  | files _ e => some e.message
  | json e => some e.message
  | _ => none

end Failure

end Marginalia
