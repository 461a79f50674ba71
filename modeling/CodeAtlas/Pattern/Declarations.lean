import CodeAtlas.Graph.Extraction
import CodeAtlas.Pattern.Parameters
import CodeAtlas.Regex.Reader
import CodeAtlas.Regex.Search

/-!
Declarations found by patterns.

Where no grammar can read a file, declarations are found by expressions that begin at the start of a line. Nothing
is nested then, and what is declared covers only its header. Of declarations with the same name the first counts.
-/
namespace CodeAtlas.Pattern

open CodeAtlas.Graph
open CodeAtlas.Text

/-- Words that look like names of functions but begin a statement. -/
def statementWords : List String := [
  "if", "elif", "else", "for", "foreach", "while", "do", "switch", "case", "catch", "try", "return",
  "throw", "new", "delete", "sizeof", "typeof", "with", "match", "loop", "synchronized"]

/-- An expression for a kind of declaration, with groups for the whole header, the name and the parameters. -/
structure DeclarationPattern where
  kind : ElementKind
  regex : Regex

/-- How the declarations of a language are found. -/
structure PatternSet where
  style : ParameterStyle
  patterns : List DeclarationPattern

namespace PatternSet

/-- The expression for a header at the start of a line. -/
def header (pattern : String) : Regex :=
  Regex.ofString ("(?m)^[ \t]*(?P<decl>" ++ pattern ++ ")")

/-- The patterns for functions and then those for types. -/
def make (style : ParameterStyle) (functions types : List String) : PatternSet where
  style := style
  patterns := functions.map (fun p => ⟨.function, header p⟩) ++ types.map (fun p => ⟨.classLike, header p⟩)

end PatternSet

/-- Functions of the scripting languages of browsers. -/
def scriptFunctions : List String := [
  r"(?:export[ \t]+)?(?:default[ \t]+)?(?:async[ \t]+)?function\*?[ \t]*(?P<name>\w+)[ \t]*\((?P<params>[^)]*)\)",
  r"(?:export[ \t]+)?(?:const|let|var)[ \t]+(?P<name>\w+)[ \t]*=[ \t]*(?:async[ \t]+)?\((?P<params>[^)]*)\)[ \t]*=>"]

/-- Classes of the scripting languages of browsers. -/
def scriptClass : String :=
  r"(?:export[ \t]+)?(?:default[ \t]+)?(?:abstract[ \t]+)?class[ \t]+(?P<name>\w+)"

/-- The patterns of each language. -/
def patternSets : List (String × PatternSet) := [
  ("python", .make .annotated
    [r"(?:async[ \t]+)?def[ \t]+(?P<name>\w+)[ \t]*\((?P<params>[^)]*)\)"]
    [r"class[ \t]+(?P<name>\w+)"]),
  ("javascript", .make .annotated
    scriptFunctions
    [scriptClass]),
  ("typescript", .make .annotated
    scriptFunctions
    [scriptClass,
    r"(?:export[ \t]+)?interface[ \t]+(?P<name>\w+)"]),
  ("java", .make .nameLast
    [r"(?:[\w<>\[\],.?]+[ \t]+)*(?P<name>\w+)[ \t]*\((?P<params>[^)]*)\)[^;\x7b\n]*\x7b"]
    [r"(?:(?:public|private|protected|static|final|abstract|sealed)[ \t]+)*(?:class|interface|enum|record)[ \t]+(?P<name>\w+)"]),
  ("go", .make .nameFirst
    [r"func[ \t]+(?:\([^)]*\)[ \t]*)?(?P<name>\w+)[ \t]*(?:\[[^\]]*\])?\((?P<params>[^)]*)\)"]
    [r"type[ \t]+(?P<name>\w+)[ \t]+(?:struct|interface)\b"]),
  ("rust", .make .annotated
    [r"(?:pub(?:\([^)]*\))?[ \t]+)?(?:(?:const|async|unsafe|extern(?:[ \t]+\x22[^\x22]*\x22)?)[ \t]+)*fn[ \t]+(?P<name>\w+)[ \t]*(?:<[^(]*>)?[ \t]*\((?P<params>[^)]*)\)"]
    [r"(?:pub(?:\([^)]*\))?[ \t]+)?(?:struct|enum|trait|union)[ \t]+(?P<name>\w+)"]),
  ("c", .make .nameLast
    [r"(?:[\w*]+[ \t]+[*]*)+(?P<name>\w+)[ \t]*\((?P<params>[^)]*)\)[ \t]*\x7b"]
    [r"(?:typedef[ \t]+)?struct[ \t]+(?P<name>\w+)[ \t]*\x7b"]),
  ("cpp", .make .nameLast
    [r"(?:[\w*&:<>,]+[ \t]+[*&]*)+(?:\w+::)*~?(?P<name>\w+)[ \t]*\((?P<params>[^)]*)\)[ \t\w]*\x7b"]
    [r"(?:template[ \t]*<[^>]*>[ \t]*)?(?:class|struct)[ \t]+(?P<name>\w+)[^;\n]*\x7b"])]

/-- The patterns of a language. -/
def patterns? (language : String) : Option PatternSet :=
  patternSets.lookup language

/-- The declaration that a match describes, with the offset where its header begins. -/
def declaration? (source : String) (path : String) (style : ParameterStyle) (kind : ElementKind)
    (m : Regex.Match) : Option (Nat × Element) :=
  let textOf (s : Span) : String := String.Pos.Raw.extract source ⟨s.start.offset⟩ ⟨s.stop.offset⟩
  match m.group? "decl", m.group? "name" with
  | some header, some nameSpan =>
    let name := textOf nameSpan
    if statementWords.contains name then none
    else some (header.start.offset, { Element.bare name kind path with
      lineStart := header.start.row + 1
      columnStart := header.start.column
      lineEnd := header.stop.row + 1
      columnEnd := header.stop.column
      parameters := (m.group? "params").map fun s => parameterNames style (textOf s) })
  | _, _ => none

/-- All declarations that the patterns find, pattern by pattern. -/
def candidates (set : PatternSet) (source path : String) : List (Nat × Element) :=
  set.patterns.flatMap fun p =>
    (p.regex.allMatches source).filterMap (declaration? source path set.style p.kind)

/-- The elements of a list of which no earlier one has the same identifier. -/
def firstOfEachId (elements : List Element) : List Element :=
  elements.foldl (fun kept e => if kept.any (·.id == e.id) then kept else kept ++ [e]) []

/-- What the patterns of a language find in a text. -/
def extract (source language path : String) : Extraction :=
  match patterns? language with
  | none => .empty
  | some set =>
    let found := (candidates set source path).mergeSort fun a b => a.1 ≤ b.1
    ⟨firstOfEachId (found.map Prod.snd), [], []⟩

end CodeAtlas.Pattern
