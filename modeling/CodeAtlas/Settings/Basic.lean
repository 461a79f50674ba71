import CodeAtlas.Build.Basic
import CodeAtlas.Text.Blank
import CodeAtlas.Toml.Reader

/-!
What can be configured, and how it is written in a file.

Everything has a default, and keys that mean nothing are passed over.
-/
namespace CodeAtlas.Settings

/-- The directory that holds the configuration of a repository. -/
def directoryName : Text.Bytes := Text.bytes ".strata"

/-- The name of the file in that directory. -/
def fileName : Text.Bytes := Text.bytes "config.toml"

/-- What is configured. -/
structure Configuration where
  crawl : Crawl.Settings
  /-- How many files are read at the same time; 0 stands for as many as there are processors. -/
  threads : Nat
  /-- Whether files with syntax errors are read by patterns. -/
  fallbackOnSyntaxError : Bool
  /-- The language that is analysed, if it is not the main one. -/
  language : Option String
  /-- Where the log is written. -/
  logDirectory : Option String
deriving DecidableEq, Repr

/-- What holds where nothing is configured. -/
def Configuration.standard : Configuration :=
  ⟨.standard, 0, true, none, none⟩

/-- How graphs are built under a configuration. -/
def Configuration.buildOptions (c : Configuration) : Build.Options :=
  ⟨c.threads, c.crawl, ⟨Parsing.allGrammars, c.fallbackOnSyntaxError⟩⟩

/-- Where the log is written; a relative directory is meant below the one of the configuration. -/
def Configuration.logPath? (c : Configuration) (directory : Option Text.Bytes) : Option Text.Bytes :=
  c.logDirectory.map fun logs => Path.join (directory.getD directoryName) (Text.bytes logs)

/-- The lines of a file with all defaults and explanations. -/
def defaultLines : List String :=
  [ "# Strata configuration", "", "[crawl]",
    "# Entries whose name matches are skipped (literal names or \"*.ext\")", "ignore = ["] ++
  (Crawl.defaultIgnorePatterns.map fun p => "    \"" ++ p ++ "\",") ++
  [ "]", "max_file_size = " ++ toString Classify.defaultMaxFileSize, "use_gitignore = false", "", "[analysis]",
    "# 0 = one worker per available core", "threads = 0", "fallback_on_syntax_error = true",
    "# language = \"python\"", "", "[logging]", "# directory = \"logs\""]

/-- A file with all defaults and explanations. -/
def defaultText : String :=
  String.join (defaultLines.map (· ++ "\n"))

/-! ### Validation -/

/-- A setting that cannot be used. -/
structure Invalid where
  field : String
  message : String
deriving DecidableEq, Repr

/-- The wording of what is wrong with a setting. -/
def Invalid.text (e : Invalid) : String :=
  e.field ++ ": " ++ e.message

/-- What is wrong with a configuration. -/
def Configuration.validate (c : Configuration) : List Invalid :=
  let patterns := if c.crawl.ignorePatterns.any fun p => (Text.trim p).isEmpty then
      [⟨"crawl.ignore", "Ignore patterns cannot be empty."⟩]
    else []
  let size := if c.crawl.maxFileSize == 0 then
      [⟨"crawl.max_file_size", "Maximum file size must be greater than zero."⟩]
    else []
  let language := match c.language with
    | none => []
    | some l =>
      if Classify.knownLanguages.contains l then []
      else [⟨"analysis.language", "Unknown language '" ++ l ++ "'. Expected one of: "
        ++ ", ".intercalate Classify.knownLanguages ++ "."⟩]
  patterns ++ size ++ language

/-! ### Reading -/

/-- A text. -/
def toText? : Toml → Option String
  | .string s => some s
  | _ => none

/-- A yes or no. -/
def toBool? : Toml → Option Bool
  | .boolean b => some b
  | _ => none

/-- A whole number that is not negative. -/
def toNat? : Toml → Option Nat
  | .integer n => n.toNat?
  | _ => none

/-- A list of texts. -/
def toTexts? : Toml → Option (List String)
  | .array items => items.mapM toText?
  | _ => none

/-- The fields of a group of settings: a table, or their values in order. A date has none of the fields. -/
def fields? (names : List String) : Toml → Option (String → Option Toml)
  | .table _ entries => some fun name => entries.lookup name
  | .array items => some fun name => (names.zip items).lookup name
  | .tables all => some fun name => (names.zip (all.map (.table .header))).lookup name
  | .date _ => some fun _ => none
  | _ => none

/-- A setting with its default. -/
def setting {α : Type} (field : Option Toml) (read : Toml → Option α) (default : α) : Option α :=
  match field with
  | none => some default
  | some v => read v

/-- The settings of a walk. -/
def crawlSettings? (v : Toml) : Option Crawl.Settings := do
  let field ← fields? ["ignore", "max_file_size", "use_gitignore"] v
  let standard := Crawl.Settings.standard
  return {
    ignorePatterns := ← setting (field "ignore") toTexts? standard.ignorePatterns
    maxFileSize := ← setting (field "max_file_size") toNat? standard.maxFileSize
    useGitignore := ← setting (field "use_gitignore") toBool? standard.useGitignore }

/-- The configuration in the table of a document. -/
def Configuration.ofEntries? (entries : Toml.Entries) : Option Configuration := do
  let crawl ← setting (entries.lookup "crawl") crawlSettings? .standard
  let analysis ← setting (entries.lookup "analysis")
    (fields? ["threads", "fallback_on_syntax_error", "language"]) fun _ => none
  let logging ← setting (entries.lookup "logging") (fields? ["directory"]) fun _ => none
  return {
    crawl
    threads := ← setting (analysis "threads") toNat? 0
    fallbackOnSyntaxError := ← setting (analysis "fallback_on_syntax_error") toBool? true
    language := ← setting (analysis "language") (fun v => (toText? v).map some) none
    logDirectory := ← setting (logging "directory") (fun v => (toText? v).map some) none }

/-- The configuration that a text describes. -/
def Configuration.ofString? (text : String) : Option Configuration :=
  (Toml.ofString? text).bind ofEntries?

end CodeAtlas.Settings
