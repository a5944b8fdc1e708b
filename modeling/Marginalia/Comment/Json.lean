import Marginalia.Comment
import Marginalia.Json.Decode

/-!
# Vocabularies and roles in JSON

Both are records whose fields are all required.
-/

namespace Marginalia

namespace Vocabulary

/-- A vocabulary as a record of its four tokens. -/
def toJson (v : Vocabulary) : Json.Value :=
  .ofFields [
    ("open".toList, .string v.blockOpen),
    ("line".toList, .string v.blockLine),
    ("close".toList, .string v.blockClose),
    ("inline".toList, .string v.inline)]

/-- Reads a vocabulary. -/
def decoder : Json.Decoder Vocabulary :=
  .record "CommentTokens" [
    .required "open" .text fun t v => { v with blockOpen := t },
    .required "line" .text fun t v => { v with blockLine := t },
    .required "close" .text fun t v => { v with blockClose := t },
    .required "inline" .text fun t v => { v with inline := t }] {}

end Vocabulary

namespace Role

/-- A role as a record of its four parts. -/
def toJson (r : Role) : Json.Value :=
  .ofFields [
    ("blockOpen".toList, .bool r.blockOpen),
    ("blockLine".toList, .bool r.blockLine),
    ("blockClose".toList, .bool r.blockClose),
    ("inline".toList, .bool r.inline)]

/-- Reads a role. -/
def decoder : Json.Decoder Role :=
  .record "CommentRole" [
    .required "blockOpen" .bool fun b r => { r with blockOpen := b },
    .required "blockLine" .bool fun b r => { r with blockLine := b },
    .required "blockClose" .bool fun b r => { r with blockClose := b },
    .required "inline" .bool fun b r => { r with inline := b }] {}

end Role

end Marginalia
