import CodeAtlas.Toml.Scalar

/-!
Reading TOML documents.

A document is a sequence of lines: empty ones, headers of tables, and entries. Values may go over several lines.
-/
namespace CodeAtlas.Toml

/-- The rest after a comment, up to the end of its line. -/
def skipComment (text : List Char) : List Char :=
  match text with
  | '#' :: rest => rest.dropWhile isPlain
  | _ => text

/-- The rest after white space, line breaks and comments, which all may stand between the items of an array. -/
def skipLines : Nat → List Char → List Char
  | 0, text => text
  | fuel + 1, text =>
    let text := skipComment (skipGap text)
    match afterNewline? text with
    | some rest => skipLines fuel rest
    | none => text

mutual

/-- A value, nested at most `depth` deep. Every item takes in a character, which `fuel` counts. -/
def value? (depth fuel : Nat) (text : List Char) : Reading Toml :=
  match depth, fuel, text with
  | _, 0, _ => none
  | _, _, 't' :: 'r' :: 'u' :: 'e' :: rest => some (.boolean true, rest)
  | _, _, 'f' :: 'a' :: 'l' :: 's' :: 'e' :: rest => some (.boolean false, rest)
  | depth + 1, fuel + 1, '[' :: rest =>
    match skipLines rest.length rest with
    | ']' :: rest => some (.array [], rest)
    | rest => items? depth fuel [] rest
  | depth + 1, fuel + 1, '{' :: rest =>
    match skipGap rest with
    | '}' :: rest => some (.table .inline [], rest)
    | rest => (pairs? depth fuel [] rest).bind fun (pairs, rest) =>
        (Entries.addAll [] pairs).map fun es => (.table .inline es, rest)
  | _, _, text =>
    match quoted? text with
    | some (s, rest) => some (.string s, rest)
    | none => number? text
termination_by fuel

/-- The items of an array and its end, with those read so far in reverse. -/
def items? (depth fuel : Nat) (read : List Toml) (text : List Char) : Reading Toml :=
  match fuel with
  | 0 => none
  | fuel + 1 =>
    match value? depth fuel text with
    | none => none
    | some (item, rest) =>
      match skipLines rest.length rest with
      | ']' :: rest => some (.array (item :: read).reverse, rest)
      | ',' :: rest =>
        match skipLines rest.length rest with
        | ']' :: rest => some (.array (item :: read).reverse, rest)
        | rest => items? depth fuel (item :: read) rest
      | _ => none
termination_by fuel

/-- The entries between braces and their end, with those read so far in reverse. -/
def pairs? (depth fuel : Nat) (read : List Entry) (text : List Char) : Reading (List Entry) :=
  match fuel with
  | 0 => none
  | fuel + 1 =>
    match entry? depth fuel text with
    | none => none
    | some (e, rest) =>
      match skipGap rest with
      | '}' :: rest => some ((e :: read).reverse, rest)
      | ',' :: rest => pairs? depth fuel (e :: read) rest
      | _ => none
termination_by fuel

/-- A key and its value. -/
def entry? (depth fuel : Nat) (text : List Char) : Reading Entry :=
  match fuel with
  | 0 => none
  | fuel + 1 =>
    match key? text with
    | some (parts, '=' :: rest) =>
      match parts.getLast?, value? depth fuel (skipGap rest) with
      | some key, some (v, rest) => some (⟨parts.dropLast, key, v⟩, rest)
      | _, _ => none
    | _ => none
termination_by fuel

end

/-- A line of a document. -/
inductive Line where
  | blank
  | header (path : List String) (repeated : Bool)
  | entry (e : Entry)

/-- The rest after the end of a line, before which white space and a comment may stand. -/
def lineEnd? (text : List Char) : Option (List Char) :=
  match skipComment (skipGap text) with
  | [] => some []
  | text => afterNewline? text

/-- A line. -/
def line? (text : List Char) : Reading Line :=
  match text with
  | '#' :: _ | '\n' :: _ | '\r' :: _ => (lineEnd? text).map (.blank, ·)
  | '[' :: '[' :: rest =>
    match key? rest with
    | some (path, ']' :: ']' :: rest) => (lineEnd? rest).map (.header path true, ·)
    | _ => none
  | '[' :: rest =>
    match key? rest with
    | some (path, ']' :: rest) => (lineEnd? rest).map (.header path false, ·)
    | _ => none
  | _ =>
    match entry? maxDepth (2 * text.length + 2) text with
    | some (e, rest) => (lineEnd? rest).map (.entry e, ·)
    | none => none

/-- All lines of a text. -/
def lines? : Nat → List Char → Option (List Line)
  | 0, _ => none
  | fuel + 1, text =>
    match skipGap text with
    | [] => some []
    | text =>
      match line? text with
      | none => none
      | some (line, rest) => (lines? fuel rest).map (line :: ·)

/-- The parts of a document. -/
def sections : List Line → List Section
  | [] => [⟨[], false, []⟩]
  | .blank :: rest => sections rest
  | .entry e :: rest =>
    match sections rest with
    | first :: others => ⟨first.path, first.repeated, e :: first.entries⟩ :: others
    | [] => []
  | .header path repeated :: rest =>
    match sections rest with
    | first :: others => ⟨[], false, []⟩ :: ⟨path, repeated, first.entries⟩ :: others
    | [] => []

/-- The table of a document. A mark of byte order before it is passed over. -/
def ofString? (text : String) : Option Entries :=
  let chars := match text.toList with
    | c :: rest => if c == Char.ofNat 0xfeff then rest else c :: rest
    | [] => []
  (lines? (chars.length + 1) chars).bind fun lines => ofSections (sections lines)

end CodeAtlas.Toml
