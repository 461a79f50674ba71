import CodeAtlas.Language.Java.Grammar
import CodeAtlas.Language.Java.Reader
import CodeAtlas.Parsing.Support

/-!
Support for Java.
-/
namespace CodeAtlas.Language

/-- The tables of the grammar. -/
def Java.table : Grammar.Table := .ofSpec Java.grammar

/-- Support for Java. -/
def java : Parsing.Support where
  language := "java"
  parse := Grammar.parse Java.table Grammar.Scanner.none
  read := Java.read
  complete := id

end CodeAtlas.Language
