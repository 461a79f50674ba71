import CodeAtlas.Language.Rust.Grammar
import CodeAtlas.Language.Rust.Reader
import CodeAtlas.Language.Rust.Scanner
import CodeAtlas.Parsing.Support

/-!
Support for Rust.
-/
namespace CodeAtlas.Language

/-- The tables of the grammar. -/
def Rust.table : Grammar.Table := .ofSpec Rust.grammar

/-- Support for Rust. -/
def rust : Parsing.Support where
  language := "rust"
  parse := Grammar.parse Rust.table Rust.scanner
  read := Rust.read
  complete := Rust.linkMembers

end CodeAtlas.Language
