import CodeAtlas.Path.Basic
import CodeAtlas.Text.Lowercase

/-!
Languages told from the extensions of file names.
-/
namespace CodeAtlas.Classify

/-- The extensions of each language. -/
def extensions : List (String × String) := [
  ("py", "python"), ("pyi", "python"), ("jac", "jac"), ("js", "javascript"), ("jsx", "javascript"),
  ("mjs", "javascript"), ("cjs", "javascript"), ("ts", "typescript"), ("tsx", "typescript"),
  ("java", "java"), ("cpp", "cpp"), ("cc", "cpp"), ("cxx", "cpp"), ("hpp", "cpp"), ("hh", "cpp"),
  ("hxx", "cpp"), ("c", "c"), ("h", "c"), ("rs", "rust"), ("go", "go"), ("rb", "ruby"), ("php", "php"),
  ("swift", "swift"), ("kt", "kotlin"), ("scala", "scala"), ("r", "r"), ("m", "matlab"), ("jl", "julia"),
  ("sh", "shell"), ("bash", "shell"), ("zsh", "shell"), ("fish", "shell"), ("ps1", "powershell"),
  ("bat", "batch"), ("cmd", "batch"), ("sql", "sql"), ("html", "html"), ("css", "css"), ("scss", "scss"),
  ("sass", "sass"), ("less", "less"), ("xml", "xml"), ("yaml", "yaml"), ("yml", "yaml"), ("json", "json"),
  ("toml", "toml"), ("ini", "ini"), ("cfg", "config"), ("conf", "config"), ("dockerfile", "dockerfile"),
  ("md", "markdown"), ("rst", "restructuredtext"), ("tex", "latex"), ("txt", "text")]

/-- The language of an extension, in whatever case it is written. -/
def ofExtension? (extension : String) : Option String :=
  extensions.lookup (Text.lowercase extension)

/-- The language told from a path. An extension that is no text tells nothing. -/
def ofPath? (path : Text.Bytes) : Option String :=
  ((Path.extension? path).bind Text.ofBytes?).bind ofExtension?

end CodeAtlas.Classify
