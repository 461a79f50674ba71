import CodeAtlas.Grammar.Parser
import CodeAtlas.Outline.Walk

/-!
Languages that can be read by their grammar.
-/
namespace CodeAtlas.Parsing

open CodeAtlas.Graph

/-- How a language is read: its grammar, what its trees declare, and what is to be done at the end. -/
structure Support where
  language : String
  parse : String → Option Grammar.Parse
  read : Source → Outline.Reader
  complete : Extraction → Extraction

namespace Support

/-- What a syntax tree declares, down to a bound on the depth. -/
def extract (s : Support) (limit : Option Nat) (source : Source) (tree : Syntax.Node) : Extraction :=
  s.complete (Outline.extractionAll (Outline.ofTree (s.read source) limit tree))

end Support
end CodeAtlas.Parsing
