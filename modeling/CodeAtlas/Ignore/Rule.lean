import CodeAtlas.Ignore.GlobReader
import CodeAtlas.Text.Blank

/-!
Rules about which entries of a repository are passed over.

A rule is a line. A line without a slash, apart from one at its end, fits names at any depth; any other is fixed to the
root. A slash at the end asks for directories, an exclamation mark at the start takes back what earlier rules say.
The last rule that fits an entry decides.
-/
namespace CodeAtlas.Ignore

open CodeAtlas.Text

/-- A rule. -/
structure Rule where
  glob : Glob
  /-- Whether the rule keeps what it fits. -/
  keeps : Bool
  onlyDirectories : Bool

/-- A line that is no rule, with the reason. -/
structure RuleError where
  line : String
  reason : GlobError
deriving DecidableEq, Repr

/-- The wording of an error. -/
def RuleError.message (e : RuleError) : String :=
  "error parsing glob '" ++ e.line ++ "': " ++ e.reason.message

/-- A line without the white space at its end, unless that is escaped. -/
def trimLine (line : List Char) : List Char :=
  if line.reverse.take 2 == [' ', '\\'] then line else dropEndWhile isBlank line

/-- The parts of a line: whether it keeps, whether it is fixed to the root, whether it asks for directories, and the
pattern itself. -/
structure LineParts where
  keeps : Bool
  fixed : Bool
  onlyDirectories : Bool
  pattern : List Char

/-- The parts of a line before its end is looked at. -/
def LineParts.ofStart (line : List Char) : LineParts :=
  match line with
  | '\\' :: '!' :: rest => ⟨false, false, false, '!' :: rest⟩
  | '\\' :: '#' :: rest => ⟨false, false, false, '#' :: rest⟩
  | _ =>
    let keeps := line.head? == some '!'
    let line := if keeps then line.tail else line
    let fixed := line.head? == some '/'
    ⟨keeps, fixed, false, if fixed then line.tail else line⟩

/-- Takes the slash off the end, with a backslash before it. -/
def LineParts.withoutSlash (p : LineParts) : LineParts :=
  match p.pattern.reverse with
  | '/' :: '\\' :: rest => { p with onlyDirectories := true, pattern := rest.reverse }
  | '/' :: rest => { p with onlyDirectories := true, pattern := rest.reverse }
  | _ => p

/-- The pattern that is matched: without a slash in it, it fits at any depth; and what ends in two asterisks fits only
what is below. -/
def LineParts.fullPattern (p : LineParts) : List Char :=
  let atAnyDepth := !p.fixed && !p.pattern.contains '/'
    && !("**/".toList.isPrefixOf p.pattern || p.pattern == "**".toList)
  let pattern := if atAnyDepth then "**/".toList ++ p.pattern else p.pattern
  if "/**".toList.isSuffixOf pattern then pattern ++ "/*".toList else pattern

/-- The rule that a line describes; comments and empty lines describe none. -/
def Rule.ofLine (line : String) : Except RuleError (Option Rule) :=
  let chars := line.toList
  if chars.head? == some '#' then .ok none
  else
    let trimmed := trimLine chars
    if trimmed.isEmpty then .ok none
    else
      let parts := (LineParts.ofStart trimmed).withoutSlash
      match Glob.ofString (String.ofList parts.fullPattern) with
      | .ok glob => .ok (some ⟨glob, parts.keeps, parts.onlyDirectories⟩)
      | .error e => .error ⟨String.ofList trimmed, e⟩

/-- The rules of some lines, all of which have to be well-formed. -/
def Rule.ofLines (lines : List String) : Except RuleError (List Rule) :=
  match lines with
  | [] => .ok []
  | line :: rest =>
    match Rule.ofLine line with
    | .error e => .error e
    | .ok rule => (ofLines rest).map (rule.toList ++ ·)

/-- The rules of the lines that are well-formed. -/
def Rule.ofLinesLenient (lines : List String) : List Rule :=
  lines.flatMap fun line =>
    match Rule.ofLine line with
    | .ok rule => rule.toList
    | .error _ => []

/-- Whether a rule is about an entry with the given path from the root. -/
def Rule.appliesTo (r : Rule) (path : Bytes) (isDirectory : Bool) : Bool :=
  (!r.onlyDirectories || isDirectory) && r.glob.fits path

/-- Whether the rules say to pass over an entry: the last rule that is about it decides. -/
def ignores (rules : List Rule) (path : Bytes) (isDirectory : Bool) : Bool :=
  match rules.reverse.find? (·.appliesTo path isDirectory) with
  | some r => !r.keeps
  | none => false

/-! ### Files of rules -/

/-- The lines of some bytes, without line feeds and the carriage returns before them. -/
def byteLines (line : Bytes) : Bytes → List Bytes
  | [] => if line.isEmpty then [] else [line.reverse]
  | b :: rest =>
    if b == 10 then (if line.head? == some 13 then line.tail else line).reverse :: byteLines [] rest
    else byteLines (b :: line) rest

/-- The texts of some lines up to the first one that is no text. -/
def textLines : List Bytes → List String
  | [] => []
  | line :: rest =>
    match ofBytes? line with
    | some text => text :: textLines rest
    | none => []

/-- A line without the marks of byte order before it. -/
def dropByteOrderMarks (line : String) : String :=
  String.ofList (line.toList.dropWhile (· == Char.ofNat 0xfeff))

/-- The rules in a file. Lines that are no rules are passed over. -/
def Rule.ofFile (content : ByteArray) : List Rule :=
  let lines := match textLines (byteLines [] content.data.toList) with
    | [] => []
    | first :: rest => dropByteOrderMarks first :: rest
  ofLinesLenient lines

end CodeAtlas.Ignore
