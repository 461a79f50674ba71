import CodeAtlas.Language.Python.Grammar
import CodeAtlas.Language.Python.Reader
import CodeAtlas.Language.Python.Scanner
import CodeAtlas.Parsing.Support

/-!
Support for Python.
-/
namespace CodeAtlas.Language

/-- The tables of the grammar. -/
def Python.table : Grammar.Table := .ofSpec Python.grammar

/-- Support for Python. -/
def python : Parsing.Support where
  language := "python"
  parse := Grammar.parse Python.table Python.scanner
  read := Python.read
  complete := id

end CodeAtlas.Language
