import CodeAtlas.Language.JavaScript.Grammar
import CodeAtlas.Language.JavaScript.Reader
import CodeAtlas.Language.JavaScript.Scanner
import CodeAtlas.Parsing.Support

/-!
Support for JavaScript.
-/
namespace CodeAtlas.Language

/-- The tables of the grammar. -/
def JavaScript.table : Grammar.Table := .ofSpec JavaScript.grammar

/-- Support for JavaScript. -/
def javascript : Parsing.Support where
  language := "javascript"
  parse := Grammar.parse JavaScript.table JavaScript.scanner
  read := JavaScript.read
  complete := id

end CodeAtlas.Language
