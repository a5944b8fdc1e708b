import Marginalia.Language
import Marginalia.Proofs.Extraction.Reading
import Marginalia.Proofs.Text.Endings
import Marginalia.Proofs.Text.Utf8
import Marginalia.Run

/-!
# Files and texts with any line endings

A text in memory and the file that holds its bytes are taken apart in different ways: the lines of
the text keep a carriage return at the end of the text, those of the file do not. The pieces are the
same but for blanks at their ends (`map_trimEnd_byteLines`).

Taking a line does not see blanks at its end (`feed_append`). A line where there is something to see
is classified as before. A line of blanks may change its indentation, but it gives a node without
data, and nothing looks at the index of such a node (`nextNode_of_isBlank`). So a file gives what
its text gives, and neither line feeds behind carriage returns nor blanks at the ends of lines
change that (`extract_eq_ofText`).
-/

namespace Marginalia

/-! ### Blank lines -/

namespace Vocabulary

theorem afterToken?_nil (token : Text) : afterToken? token [] = none := by
  cases token with
  | nil => rfl
  | cons c token => exact ite_self _

theorem beforeToken?_nil (token : Text) : beforeToken? token [] = none := by
  cases token with
  | nil => rfl
  | cons c token => exact beforeToken?_eq_none fun h => by simpa using List.suffix_nil.mp h

theorem classify_of_isBlank (v : Vocabulary) (previous : Role) {raw : Text}
    (h : Text.isBlank raw = true) :
    v.classify previous raw =
      { role := { blockLine := previous.continuesBlock }, indent := Text.indent raw } := by
  have htrim : Text.trim raw = [] := Text.trim_append h []
  simp only [classify, htrim, afterToken?_nil, beforeToken?_nil, strip, ite_self,
    Bool.and_self, Bool.false_eq_true, if_false, Option.getD_none]

theorem classify_append (v : Vocabulary) (previous : Role) {raw pad : Text}
    (h : Text.isBlank raw = false) (hp : Text.isBlank pad = true) :
    v.classify previous (raw ++ pad) = v.classify previous raw := by
  rw [classify, Text.trim_append hp, Text.indent_append h, classify]

end Vocabulary

namespace Extractor

variable {x : Extractor} {raw pad : Text} {ls ls' : List Text}

/-- A line of blanks gives a node without data; inside a block its role goes on with the block. -/
theorem nextNode_of_isBlank (x : Extractor) (s : Extract) (h : Text.isBlank raw = true) :
    let node := x.nextNode s raw
    let inside := s.role.continuesBlock
    node.role = { blockLine := inside, inline := inside } ∧ node.configuration = false ∧
      node.hasData = false := by
  intro node inside
  have hnode : node = x.grammars.apply x.extension
      (Node.ofLine { role := { blockLine := inside }, indent := Text.indent raw }
        (s.lines + 1)) := by
    rw [← Vocabulary.classify_of_isBlank x.vocabulary s.role h]
    rfl
  cases hi : inside with
  | true =>
    rw [hi, Node.ofLine_of_plain rfl List.not_mem_nil (by simp),
      Grammars.apply_of_hasValue_eq_false rfl] at hnode
    rw [hnode]
    exact ⟨rfl, rfl, rfl⟩
  | false =>
    have hline : Node.ofLine { indent := Text.indent raw } (s.lines + 1) =
        { line := s.lines + 1, index := Text.indent raw } := rfl
    rw [hi, hline, Grammars.apply_of_hasValue_eq_false rfl] at hnode
    rw [hnode]
    exact ⟨rfl, rfl, rfl⟩

/-- **Blanks at the end of a line** are not seen. -/
theorem feed_append (x : Extractor) (s : Extract) (raw : Text) (hp : Text.isBlank pad = true) :
    x.feed s (raw ++ pad) = x.feed s raw := by
  have hleaf : ∀ above, x.plainLeaf above (s.lines + 1) (raw ++ pad) =
      x.plainLeaf above (s.lines + 1) raw := fun above => by
    rw [plainLeaf, Text.trim_append hp, plainLeaf]
  cases hb : Text.isBlank raw with
  | false =>
    have hnode : x.nextNode s (raw ++ pad) = x.nextNode s raw := by
      rw [nextNode, nodeOf, Vocabulary.classify_append _ _ hb hp, nextNode, nodeOf]
    simp only [feed_eq, passed, hnode, hleaf]
  | true =>
    have hb' : Text.isBlank (raw ++ pad) = true := by
      rw [Text.isBlank, List.all_append, ← Text.isBlank, ← Text.isBlank, hb, hp, Bool.and_self]
    obtain ⟨hr, hc, hd⟩ := nextNode_of_isBlank x s hb
    obtain ⟨hr', hc', hd'⟩ := nextNode_of_isBlank x s hb'
    simp only [feed_eq, passed, hr, hc, hd, hr', hc', hd', hleaf, Bool.false_eq_true, if_false]

theorem feed_trimEnd (x : Extractor) (s : Extract) (raw : Text) :
    x.feed s (Text.trimEnd raw) = x.feed s raw := by
  obtain ⟨pad, hp, he⟩ := Text.exists_eq_trimEnd_append raw
  calc x.feed s (Text.trimEnd raw) = x.feed s (Text.trimEnd raw ++ pad) :=
        (feed_append x s _ hp).symm
    _ = x.feed s raw := by rw [← he]

/-- Lines that are the same but for blanks at their ends give the same. -/
theorem feedAll_eq_of_trimEnd (x : Extractor) (s : Extract)
    (h : ls.map Text.trimEnd = ls'.map Text.trimEnd) : x.feedAll s ls = x.feedAll s ls' := by
  have htrim : ∀ (ls : List Text) (s : Extract),
      x.feedAll s (ls.map Text.trimEnd) = x.feedAll s ls := by
    intro ls
    induction ls with
    | nil => exact fun s => rfl
    | cons raw ls ih =>
      intro s
      rw [List.map_cons, feedAll_cons, feedAll_cons, feed_trimEnd, ih]
  rw [← htrim ls, h, htrim]

/-! ### Lines of bytes -/

/-- The carriage return at the end of a line is its last byte. -/
theorem decodeLossy_dropReturn (l : Text) :
    Utf8.decodeLossy (if (Utf8.encode l).getLast? = some 13 then (Utf8.encode l).dropLast
      else Utf8.encode l) = Text.dropReturn l := by
  have hlast := Utf8.getLast?_encode_iff (d := '\r') (by decide) l
  rw [Text.dropReturn]
  split_ifs with h h' h'
  · obtain ⟨init, rfl⟩ := List.getLast?_eq_some_iff.mp h'
    rw [Utf8.encode_append, Utf8.encode_cons, Utf8.encode_nil, List.append_nil,
      Utf8.encodeChar_of_lt (by decide), List.dropLast_concat, List.dropLast_concat,
      Utf8.decodeLossy_encode]
  · exact absurd (hlast.mp h) h'
  · exact absurd (hlast.mpr h') h
  · exact Utf8.decodeLossy_encode l

theorem byteLines_encode (t : Text) :
    byteLines (Utf8.encode t) = (Text.rows t).map Text.dropReturn := by
  have hsplit : (Utf8.encode t).splitOn 10 = (t.splitOn '\n').map Utf8.encode :=
    Utf8.splitOn_encode (d := '\n') (by decide) t
  have hempty : ((t.splitOn '\n').map Utf8.encode).getLast? = some [] ↔
      (t.splitOn '\n').getLast? = some [] := by
    rw [List.getLast?_map, Option.map_eq_some_iff]
    simp [Utf8.encode_eq_nil_iff]
  have hrows : (if ((t.splitOn '\n').map Utf8.encode).getLast? = some [] then
      ((t.splitOn '\n').map Utf8.encode).dropLast else (t.splitOn '\n').map Utf8.encode) =
      (Text.rows t).map Utf8.encode := by
    simp only [hempty, Text.rows]
    split_ifs
    · rw [List.map_dropLast]
    · rfl
  simp only [byteLines, hsplit, hrows, List.map_map]
  exact List.map_congr_left fun l _ => decodeLossy_dropReturn l

/-- The lines of a file are those of its text, but for blanks at their ends. -/
theorem map_trimEnd_byteLines (t : Text) :
    (byteLines (Utf8.encode t)).map Text.trimEnd = (Text.lines t).map Text.trimEnd := by
  rw [byteLines_encode, Text.map_trimEnd_lines, List.map_map]
  exact List.map_congr_left fun l _ => Text.trimEnd_dropReturn l

theorem ofBytes_encode (x : Extractor) (t : Text) : x.ofBytes (Utf8.encode t) = x.ofText t :=
  feedAll_eq_of_trimEnd x {} (map_trimEnd_byteLines t)

theorem ofText_of_repadded {t t' : Text} (x : Extractor) (h : Text.Repadded t t') :
    x.ofText t' = x.ofText t :=
  feedAll_eq_of_trimEnd x {} (by rw [Text.map_trimEnd_lines, h.map_trimEnd_rows,
    Text.map_trimEnd_lines])

end Extractor

/-! ### Reading from disk and from memory -/

/-- **Files and texts**: a file that holds the bytes of a text gives what the text gives for the
extension of the file. A carriage return before each line feed changes neither of them, and no more
do other blanks at the ends of lines. -/
theorem FileStore.extract_eq_ofText (task : Task) (grammars : Grammars) (path : Path)
    (t t' : Text) (h : t' = t ∨ t' = Text.withReturns t ∨ Text.Repadded t t') :
    (∀ extension, (Extractor.ofTask task grammars extension).ofText t' =
      (Extractor.ofTask task grammars extension).ofText t) ∧
    ∀ store : FileStore, store.read path = .ok (Utf8.encode t') →
      store.extract task grammars path =
        .ok (((Extractor.ofTask task grammars (Path.extension path)).ofText t).parsed path) := by
  have hrepadded : Text.Repadded t t' := by
    rcases h with rfl | rfl | h
    · exact Text.repadded_refl _
    · exact Text.repadded_withReturns t
    · exact h
  refine ⟨fun extension => Extractor.ofText_of_repadded _ hrepadded, fun store hread => ?_⟩
  rw [extract, hread]
  dsimp only
  rw [Extractor.ofBytes_encode, Extractor.ofText_of_repadded _ hrepadded]

/-- A blank before a carriage return, one on an empty line that is collected, and a carriage return
at the end of the text. The file is in the root, beside the working directory. -/
theorem FileStore.extract_eq_ofText_blanks :
    let task : Task := { vocabulary := Language.cFamily.vocabulary }
    let t := "// .a ...\r\n\n// .b \u00fc".toList
    let t' := "// .a ...\t\r\n \n// .b \u00fc\r".toList
    let store : FileStore :=
      { items := [(Location.work, .directory), (["a.c".toList], .file (Utf8.encode t'))] }
    Text.Repadded t t' ∧ ∀ path ∈ ["/a.c".toList, "../a.c".toList],
      store.read path = .ok (Utf8.encode t') ∧
        store.extract task [] path =
          .ok (((Extractor.ofTask task [] "c".toList).ofText t).parsed path) := by
  intro task t t' store
  have hrepadded : Text.Repadded t t' :=
    .line (l := "// .a ...".toList) (p := ['\r']) (q := ['\t', '\r']) (by decide) (by decide)
      (by decide) <|
      .line (l := []) (p := []) (q := [' ']) (by decide) (by decide) (by decide) <|
        .last (l := "// .b \u00fc".toList) (p := []) (q := ['\r']) (by decide) (by decide)
          (by decide) (by decide) (by decide)
  have hread : ∀ path ∈ ["/a.c".toList, "../a.c".toList],
      store.read path = .ok (Utf8.encode t') ∧ Path.extension path = "c".toList := by
    decide +kernel
  refine ⟨hrepadded, fun path hpath => ⟨(hread path hpath).1, ?_⟩⟩
  rw [(extract_eq_ofText task [] path t t' (.inr (.inr hrepadded))).2 store (hread path hpath).1,
    (hread path hpath).2]

end Marginalia
