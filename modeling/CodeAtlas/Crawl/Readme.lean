import CodeAtlas.Text.Blank
import CodeAtlas.Text.Lines

/-!
Summaries of what a repository says about itself.

The summary joins the first lines of prose. Headings, links, tables and blocks of code are passed over.
-/
namespace CodeAtlas.Crawl

open CodeAtlas.Text

/-- The names under which a description is looked for, in this order. -/
def readmeNames : List String := [
  "README.md", "README.rst", "README.txt", "README", "readme.md", "readme.rst", "readme.txt", "readme"]

/-- How many lines are looked at. -/
def scannedLines : Nat := 50

/-- How many lines of prose are joined. -/
def summaryLines : Nat := 5

/-- How many characters a summary has at most, before its ellipsis. -/
def summaryChars : Nat := 500

/-- The lines of prose among some trimmed lines; `inCode` tells whether a block of code is open. -/
def prose (inCode : Bool) : List (List Char) → List (List Char)
  | [] => []
  | line :: rest =>
    if line.isEmpty then prose inCode rest
    else if "\x60\x60\x60".toList.isPrefixOf line then prose (!inCode) rest
    else if inCode || line.head? == some '#' || line.head? == some '[' || line.head? == some '|' then
      prose inCode rest
    else line :: prose inCode rest

/-- A text of at most `summaryChars` characters, with an ellipsis if there were more. -/
def shorten (text : List Char) : List Char :=
  if summaryChars < text.length then text.take summaryChars ++ "...".toList else text

/-- The summary of a text. -/
def summarize (content : String) : String :=
  let trimmed := ((lines content.toList).take scannedLines).map trimList
  let chosen := (prose false trimmed).take summaryLines
  String.ofList (shorten ([' '].intercalate chosen))

end CodeAtlas.Crawl
