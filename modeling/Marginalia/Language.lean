import Marginalia.Comment
import Marginalia.Path

/-!
# Known languages

The comment tokens of common languages, found by the extension of a file.
-/

namespace Marginalia

/-- A family of languages with the same comments. -/
inductive Language where
  | cFamily
  | python
  | shell
  | markup
  | sql
deriving DecidableEq, Repr, Inhabited

namespace Language

/-- All families, in the order in which extensions are looked up. -/
def all : List Language := [cFamily, python, shell, markup, sql]

/-- The name of the family. -/
def name : Language → String
  | cFamily => "c-family"
  | python => "python"
  | shell => "shell"
  | markup => "markup"
  | sql => "sql"

/-- The comment tokens of the family. -/
def vocabulary : Language → Vocabulary
  | cFamily => ⟨"/*".toList, "*".toList, "*/".toList, "//".toList⟩
  | python => ⟨"\"\"\"".toList, [], "\"\"\"".toList, "#".toList⟩
  | shell => ⟨[], [], [], "#".toList⟩
  | markup => ⟨"<!--".toList, [], "-->".toList, []⟩
  | sql => ⟨"/*".toList, "*".toList, "*/".toList, "--".toList⟩

/-- The extensions of files in the family. -/
def extensions : Language → List Text
  | cFamily =>
    ["rs", "go", "c", "h", "cpp", "cc", "cxx", "hpp", "java", "js", "jsx", "mjs", "ts", "tsx", "cs",
      "swift", "kt", "scala", "css", "scss"].map String.toList
  | python => ["py", "pyi"].map String.toList
  | shell => ["sh", "bash", "zsh", "rb", "pl", "yaml", "yml", "toml"].map String.toList
  | markup => ["html", "htm", "xml", "md", "vue", "svelte"].map String.toList
  | sql => ["sql".toList]

/-- The language of a file, by its extension in either case. -/
def ofPath? (path : Path) : Option Language :=
  (Path.extension? path).bind fun e =>
    all.find? fun l => l.extensions.contains (e.map Char.toLower)

end Language

end Marginalia
