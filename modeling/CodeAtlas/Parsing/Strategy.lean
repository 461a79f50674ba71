import CodeAtlas.Language.Java
import CodeAtlas.Language.JavaScript
import CodeAtlas.Language.Python
import CodeAtlas.Language.Rust
import CodeAtlas.Pattern.Declarations

/-!
Reading a file by its grammar or else by patterns.

The grammar is tried first. Patterns step in for languages without a grammar and for texts that are not in the
language.
-/
namespace CodeAtlas.Parsing

open CodeAtlas.Graph

/-- Which way a file was read. -/
inductive Strategy where
  | grammar
  | pattern
deriving DecidableEq, Repr

/-- The word for a strategy in reports. -/
def Strategy.name : Strategy → String
  | .grammar => "grammar"
  | .pattern => "pattern"

/-- Why a grammar could not read a file. -/
inductive Failure where
  /-- There is no grammar for the language. -/
  | unsupported (language : String)
  /-- The text is not in the language. -/
  | syntaxErrors
deriving DecidableEq, Repr

/-- The wording of a failure. -/
def Failure.message : Failure → String
  | .unsupported language => "No grammar registered for language: " ++ language
  | .syntaxErrors => "Syntax errors in source"

/-- All grammars. -/
def allGrammars : List Support :=
  [Language.python, Language.javascript, Language.java, Language.rust]

/-- How files are read. -/
structure Parser where
  grammars : List Support
  /-- Whether texts with syntax errors are left to the patterns. -/
  rejectSyntaxErrors : Bool

namespace Parser

/-- All grammars are used, and patterns for texts with errors. -/
def standard : Parser := ⟨allGrammars, true⟩

/-- The support for a language. -/
def support? (p : Parser) (language : String) : Option Support :=
  p.grammars.find? (·.language == language)

/-- Reads a file by its grammar only. -/
def withGrammar (p : Parser) (language : String) (source : Source) : Except Failure Extraction :=
  match p.support? language with
  | none => .error (.unsupported language)
  | some support =>
    match support.parse source.text with
    | none => .error .syntaxErrors
    | some parsed =>
      if p.rejectSyntaxErrors && parsed.repaired then .error .syntaxErrors
      else .ok (support.extract (some Outline.depthLimit) source parsed.tree)

/-- Reads a file by its grammar, or else by patterns. -/
def run (p : Parser) (language : String) (source : Source) : Extraction × Strategy :=
  match p.withGrammar language source with
  | .ok extraction => (extraction, .grammar)
  | .error _ => (Pattern.extract source.text language source.path, .pattern)

end Parser
end CodeAtlas.Parsing
