import CodeAtlas.Regex.Reader
import CodeAtlas.Regex.Search

/-!
Languages told from the beginning of a text.

Each language has expressions that are typical for it. The first language wins of which some expression occurs.
-/
namespace CodeAtlas.Classify

/-- An expression in which case does not matter and every line has its own beginning and end. -/
def signature (pattern : String) : Regex :=
  Regex.ofString ("(?im)" ++ pattern)

/-- The expressions of each language, in the order in which they are tried. -/
def signatures : List (String × List Regex) := [
  ("python", [
    r"^#!/usr/bin/env python", r"^#!/usr/bin/python", r"import\s+\w+", r"from\s+\w+\s+import",
    r"def\s+\w+\s*\(", r"class\s+\w+"].map signature),
  ("jac", [
    r"node\s+\w+", r"walker\s+\w+", r"edge\s+\w+", r"graph\s+\w+", r"can\s+\w+",
    r"with\s+entry"].map signature),
  ("javascript", [
    r"^#!/usr/bin/env node", r"^#!/usr/bin/node", r"function\s+\w+\s*\(", r"const\s+\w+\s*=",
    r"let\s+\w+\s*=", r"var\s+\w+\s*=", r"=>\s*\x7b", r"require\s*\(", r"import\s+.*from"].map signature),
  ("java", [
    r"public\s+class\s+\w+", r"package\s+\w+", r"import\s+\w+", r"public\s+static\s+void\s+main",
    r"@Override", r"@Component", r"@Service"].map signature),
  ("cpp", [
    r"#include\s*<.*>", r"#include\s*\x22.*\x22", r"using\s+namespace\s+\w+", r"class\s+\w+\s*\x7b",
    r"int\s+main\s*\(", r"std::"].map signature),
  ("rust", [
    r"use\s+\w+", r"fn\s+\w+\s*\(", r"struct\s+\w+", r"impl\s+\w+", r"let\s+\w+\s*=",
    r"match\s+\w+"].map signature),
  ("go", [
    r"package\s+\w+", r"import\s+\(", r"func\s+\w+\s*\(", r"type\s+\w+\s+struct", r"interface\s+\w+",
    r"var\s+\w+\s*="].map signature)]

/-- The language told from the beginning of a text. -/
def ofContent? (head : String) : Option String :=
  (signatures.find? fun (_, patterns) => patterns.any (·.occursIn head)).map Prod.fst

end CodeAtlas.Classify
