import Marginalia.Document
import Marginalia.Json.Decode

/-!
# Documents in JSON

Fields that are empty, zero or false are left out, apart from the origin of a document and the
list of an index. Reading fills them in again.

A directory of documents has an index: a file that lists their paths.
-/

namespace Marginalia

namespace Origin

/-- The origin with its fields that are not empty. -/
def toJson (o : Origin) : Json.Value :=
  .ofFields <| ([
    ("path", o.directory),
    ("name", o.name),
    ("extension", o.extension),
    ("timestamp", o.timestamp)].filter fun f => !f.2.isEmpty).map fun f =>
      (f.1.toList, .string f.2)

/-- Reads an origin. -/
def decoder : Json.Decoder Origin :=
  .record "FileMeta" [
    .optional "path" .text fun t o => { o with directory := t },
    .optional "name" .text fun t o => { o with name := t },
    .optional "extension" .text fun t o => { o with extension := t },
    .optional "timestamp" .text fun t o => { o with timestamp := t }] {}

end Origin

namespace Entry

/-- The entry with its fields that say something; `below` are the entries below it. -/
def toJson (e : Entry) (below : Json.Values) : Json.Value :=
  let data : List (Text × Json.Value) := match below with
    | .nil => []
    | below => [("data".toList, .list below)]
  .ofFields <|
    (if e.parent = 0 then [] else [("parent".toList, .integer e.parent)]) ++
    (if e.line = 0 then [] else [("line".toList, .integer e.line)]) ++
    (if e.index = 0 then [] else [("index".toList, .integer e.index)]) ++
    (if e.keyword.isEmpty then [] else [("keyword".toList, .string e.keyword)]) ++
    (if e.value.isEmpty then [] else [("value".toList, .string e.value)]) ++
    data ++
    (if e.separator then [("separator".toList, .bool true)] else []) ++
    (if e.flags.isEmpty then [] else [("flags".toList, .ofTexts e.flags)])

/-- A forest of entries as the items of a list. -/
def forestToValues : Forest Entry → Json.Values
  | .nil => .nil
  | .cons e under rest => .cons (e.toJson (forestToValues under)) (forestToValues rest)

/-- Reads an entry and the entries below it, given a reader of forests. -/
def treeDecoder (forest : Json.Decoder (Forest Entry)) : Json.Decoder (Entry × Forest Entry) :=
  .record "DocumentNode" [
    .optional "parent" .nat64 fun n t => ({ t.1 with parent := n }, t.2),
    .optional "line" .nat64 fun n t => ({ t.1 with line := n }, t.2),
    .optional "index" .int32 fun i t => ({ t.1 with index := i }, t.2),
    .optional "keyword" .text fun k t => ({ t.1 with keyword := k }, t.2),
    .optional "value" .text fun v t => ({ t.1 with value := v }, t.2),
    .optional "data" forest fun f t => (t.1, f),
    .optional "separator" .bool fun b t => ({ t.1 with separator := b }, t.2),
    .optional "flags" (.list .text) fun fs t => ({ t.1 with flags := fs }, t.2)] ({}, .nil)

/-- Reads a forest of entries. -/
def forestDecoder : Json.Decoder (Forest Entry) :=
  .nested fun forest depth s => (Json.Decoder.list (treeDecoder forest) depth s).map .ofList

end Entry

namespace Document

/-- A list of trees under a name, left out if there are none. -/
def forestField (name : String) (f : Forest Entry) : List (Text × Json.Value) :=
  if f.isEmpty then [] else [(name.toList, .list (Entry.forestToValues f))]

/-- A document with its origin and what it holds. -/
def toJson (d : Document) : Json.Value :=
  .ofFields <| [("file".toList, d.origin.toJson)] ++
    forestField "configuration" d.configuration ++ forestField "data" d.data

/-- Reads a document. -/
def decoder : Json.Decoder Document :=
  .record "Document" [
    .optional "file" Origin.decoder fun o d => { d with origin := o },
    .optional "configuration" Entry.forestDecoder fun f d => { d with configuration := f },
    .optional "data" Entry.forestDecoder fun f d => { d with data := f }] {}

end Document

/-! ### Indexes -/

/-- The documents in a directory. -/
structure Index where
  /-- The paths of the documents. -/
  files : List Path := []
deriving DecidableEq, Repr, Inhabited

namespace Index

/-- An index with its list. -/
def toJson (i : Index) : Json.Value := .ofFields [("file".toList, .ofTexts i.files)]

/-- Reads an index. -/
def decoder : Json.Decoder Index :=
  .record "Index" [
    .optional "file" (.list (.textAs "path string")) fun fs i => { i with files := fs }] {}

end Index

end Marginalia
