import Marginalia.Grammar
import Marginalia.Json.Decode

/-!
# Grammar files

A rule is a record with a pattern and a map from the names of captures to actions; an action is
either `set`, a map from fields to templates, or `grammar`, a list of rules. Maps are kept in the
order of their keys, names by their characters and fields by `Field.rank`.
-/

namespace Marginalia

namespace Grammar

/-- The fields that an action sets, with their templates. -/
def targetsToJson (targets : List (Field × Text)) : Json.Value :=
  .ofFields (targets.map fun t => (t.1.name, .string t.2))

/-- A rule with its pattern and its actions. -/
def ruleToJson (pattern : Text) (actions : Json.Members) : Json.Value :=
  .ofFields [("pattern".toList, .string pattern), ("match".toList, .object actions)]

mutual

/-- The rules as the items of a list. -/
def Rules.toValues : Rules Text → Json.Values
  | .nil => .nil
  | .cons pattern actions rest => .cons (ruleToJson pattern actions.toMembers) rest.toValues

/-- The actions as the fields of an object. -/
def Actions.toMembers : Actions Text → Json.Members
  | .nil => .nil
  | .assign name targets rest =>
    .cons name (.ofFields [("set".toList, targetsToJson targets)]) rest.toMembers
  | .refine name rules rest =>
    .cons name (.ofFields [("grammar".toList, .list rules.toValues)]) rest.toMembers

end

/-- Reads the name of a field. -/
def fieldOfName (name : Text) : Except Json.Error Field :=
  match Field.ofName? name with
  | some f => .ok f
  | none => .error (.unknownVariant name (Field.all.map Field.name))

/-- Reads the fields that an action sets. -/
def targetsDecoder : Json.Decoder (List (Field × Text)) :=
  .map fieldOfName (fun a b => a.rank < b.rank) .text

/-- Reads an action, given a reader of lists of rules. -/
def actionDecoder (rules : Json.Decoder (Rules Text)) : Json.Decoder (Action Text) :=
  .variant [
    ("set".toList, fun depth s => (targetsDecoder depth s).map .assign),
    ("grammar".toList, fun depth s => (rules depth s).map .refine)]

/-- Reads actions, given a reader of lists of rules. -/
def actionsDecoder (rules : Json.Decoder (Rules Text)) : Json.Decoder (Actions Text) :=
  fun depth s =>
    (Json.Decoder.map .ok (fun a b : Text => a < b) (actionDecoder rules) depth s).map .ofList

/-- Reads a rule as its pattern and actions, given a reader of lists of rules. -/
def ruleDecoder (rules : Json.Decoder (Rules Text)) : Json.Decoder (Text × Actions Text) :=
  .record "RuleDef" [
    .required "pattern" .text fun t r => (t, r.2),
    .optional "match" (actionsDecoder rules) fun as r => (r.1, as)] ([], .nil)

/-- The rules of a list of patterns and actions. -/
def Rules.ofList : List (Text × Actions Text) → Rules Text
  | [] => .nil
  | (pattern, actions) :: rest => .cons pattern actions (ofList rest)

/-- Reads a list of rules. -/
def Rules.decoder : Json.Decoder (Rules Text) :=
  .nested fun rules depth s => (Json.Decoder.list (ruleDecoder rules) depth s).map .ofList

end Grammar

namespace GrammarFile

/-- A grammar file with all its fields. -/
def toJson (g : GrammarFile) : Json.Value :=
  .ofFields [
    ("name".toList, .string g.name),
    ("description".toList, .string g.description),
    ("extension".toList, .ofTexts g.extensions),
    ("grammar".toList, .list g.rules.toValues)]

/-- Reads a grammar file. -/
def decoder : Json.Decoder GrammarFile :=
  .record "GrammarFile" [
    .optional "name" .text fun n g => { g with name := n },
    .optional "description" .text fun d g => { g with description := d },
    .optional "extension" (.list .text) fun es g => { g with extensions := es },
    .optional "grammar" Grammar.Rules.decoder fun rs g => { g with rules := rs }] {}

end GrammarFile

end Marginalia
