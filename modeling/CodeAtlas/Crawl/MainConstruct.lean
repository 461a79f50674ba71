import CodeAtlas.Classify.Signature

/-!
Signs that a file is where a program starts: its name, or a main construct near its beginning.
-/
namespace CodeAtlas.Crawl

open CodeAtlas.Classify

/-- Names of files that are usually entry points. -/
def entryNames : List (String × List String) := [
  ("python", ["main.py", "app.py", "run.py", "__main__.py", "setup.py"]),
  ("jac", ["main.jac", "app.jac", "run.jac"]),
  ("javascript", ["index.js", "app.js", "main.js", "server.js", "package.json"]),
  ("java", ["Main.java", "App.java", "Application.java"]),
  ("cpp", ["main.cpp", "app.cpp", "main.c"]),
  ("rust", ["main.rs", "lib.rs", "Cargo.toml"]),
  ("go", ["main.go", "app.go", "go.mod"])]

/-- The usual names of entry points in a language. -/
def entryNamesOf (language : String) : List String :=
  (entryNames.lookup language).getD []

/-- Expressions for main constructs. -/
def mainPatterns : List (String × List Regex) := [
  ("python", [
    r"if\s+__name__\s*==\s*[\x22']__main__[\x22']", r"def\s+main\s*\("].map signature),
  ("javascript", [
    r"function\s+main\s*\(", r"module\.exports\s*=", r"export\s+default"].map signature),
  ("java", [r"public\s+static\s+void\s+main\s*\("].map signature),
  ("cpp", [r"int\s+main\s*\("].map signature),
  ("rust", [r"fn\s+main\s*\("].map signature),
  ("go", [r"func\s+main\s*\("].map signature)]

/-- Whether main constructs of a language can be recognised. -/
def knowsMain (language : String) : Bool :=
  (mainPatterns.lookup language).isSome

/-- Whether a text has a main construct of a language. -/
def hasMain (language head : String) : Bool :=
  ((mainPatterns.lookup language).getD []).any (·.occursIn head)

end CodeAtlas.Crawl
