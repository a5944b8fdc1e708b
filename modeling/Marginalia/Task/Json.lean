import Marginalia.Task
import Marginalia.Json.Decode

/-!
# Configuration files

A configuration file holds groups and tasks. Every field may be left out; all fields are written.
`Configuration.read` reads a file and tidies its tasks.
-/

namespace Marginalia

namespace Selection

/-- A selection with its two lists. -/
def toJson (s : Selection) : Json.Value :=
  .ofFields [("include".toList, .ofTexts s.included), ("exclude".toList, .ofTexts s.excluded)]

/-- Reads a selection. -/
def decoder : Json.Decoder Selection :=
  .record "Pattern" [
    .optional "include" (.list .text) fun ts s => { s with included := ts },
    .optional "exclude" (.list .text) fun ts s => { s with excluded := ts }] {}

end Selection

namespace Task

/-- Comment tokens as a task has them: those of blocks in a record of their own. -/
def vocabularyToJson (v : Vocabulary) : Json.Value :=
  .ofFields [
    ("block".toList, .ofFields [
      ("open".toList, .string v.blockOpen),
      ("line".toList, .string v.blockLine),
      ("close".toList, .string v.blockClose)]),
    ("inline".toList, .string v.inline)]

/-- Reads the tokens of blocks. -/
def blockDecoder : Json.Decoder Vocabulary :=
  .record "Block" [
    .optional "open" .text fun t v => { v with blockOpen := t },
    .optional "line" .text fun t v => { v with blockLine := t },
    .optional "close" .text fun t v => { v with blockClose := t }] {}

/-- Reads the comment tokens of a task. -/
def vocabularyDecoder : Json.Decoder Vocabulary :=
  .record "Comment" [
    .optional "block" blockDecoder fun b v => { b with inline := v.inline },
    .optional "inline" .text fun t v => { v with inline := t }] {}

/-- A task with all its fields. -/
def toJson (t : Task) : Json.Value :=
  .ofFields [
    ("name".toList, .string t.name),
    ("description".toList, .string t.description),
    ("comment".toList, vocabularyToJson t.vocabulary),
    ("source".toList, .bool t.showSource),
    ("file".toList, t.files.toJson),
    ("keyword".toList, t.keywords.toJson),
    ("configuration".toList, t.configuration.toJson),
    ("grammar".toList, .ofTexts t.grammars)]

/-- Reads a task. -/
def decoder : Json.Decoder Task :=
  .record "Task" [
    .optional "name" .text fun n t => { t with name := n },
    .optional "description" .text fun d t => { t with description := d },
    .optional "comment" vocabularyDecoder fun v t => { t with vocabulary := v },
    .optional "source" .bool fun b t => { t with showSource := b },
    .optional "file" Selection.decoder fun s t => { t with files := s },
    .optional "keyword" Selection.decoder fun s t => { t with keywords := s },
    .optional "configuration" Selection.decoder fun s t => { t with configuration := s },
    .optional "grammar" (.list .text) fun ns t => { t with grammars := ns }] {}

end Task

namespace Group

/-- A group with its name and tasks. -/
def toJson (g : Group) : Json.Value :=
  .ofFields [("name".toList, .string g.name), ("tasks".toList, .ofTexts g.tasks)]

/-- Reads a group. -/
def decoder : Json.Decoder Group :=
  .record "Group" [
    .optional "name" .text fun n g => { g with name := n },
    .optional "tasks" (.list .text) fun ts g => { g with tasks := ts }] {}

end Group

namespace Configuration

/-- A configuration with its groups and tasks. -/
def toJson (c : Configuration) : Json.Value :=
  .ofFields [
    ("group".toList, .ofList (c.groups.map Group.toJson)),
    ("task".toList, .ofList (c.tasks.map Task.toJson))]

/-- Reads a configuration. -/
def decoder : Json.Decoder Configuration :=
  .record "ConfigFile" [
    .optional "group" (.list Group.decoder) fun gs c => { c with groups := gs },
    .optional "task" (.list Task.decoder) fun ts c => { c with tasks := ts }] {}

/-- Reads the text of a configuration file and tidies its tasks. -/
def read (t : Text) : Except Json.Error Configuration :=
  (decoder.run t).map sanitize

end Configuration

end Marginalia
