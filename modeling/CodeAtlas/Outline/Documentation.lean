import CodeAtlas.Outline.Walk
import CodeAtlas.Text.Lines
import CodeAtlas.Text.Strip

/-!
Documentation in comments, and the names of types.
-/
namespace CodeAtlas.Outline

open CodeAtlas.Syntax
open CodeAtlas.Text

/-- The text of a documentation comment: without its delimiters, and without the asterisks before its lines.
Nothing is left of a comment that is not documentation, and of one without text. -/
def cleanBlock (text : String) : Option String :=
  let marked := "/**".toList <+: text.toList
  if marked then
    let body := stripEnd "*/".toList (stripStart "/**".toList text.toList)
    let kept := ((lines body).map fun l => trimList ((trimList l).dropWhile (· == '*'))).filter (· ≠ [])
    if kept.isEmpty then none else some ("\n".intercalate (kept.map String.ofList))
  else none

/-- The documentation in a block comment right before a site; at most one line may be in between. -/
def blockBefore (source : Source) (s : Site) : Option String :=
  match s.before with
  | [] => none
  | comment :: _ =>
    if comment.kind != "comment" && comment.kind != "block_comment" then none
    else if comment.stop.row + 1 < s.start.row then none
    else cleanBlock (source.textOf comment)

/-- The simple name of a type, without qualification and without arguments. -/
def typeName (source : Source) (s : Site) : String :=
  if s.kind == "generic_type" then
    match s.child? "type" with
    | some t => typeName source t.val
    | none => match s.namedChildren with
      | t :: _ => typeName source t.val
      | [] => source.textOf s.node
  else
    let part := match s.kind with
      | "scoped_type_identifier" | "scoped_identifier" => "name"
      | "member_expression" => "property"
      | "attribute" => "attribute"
      | _ => ""
    if part == "" then source.textOf s.node
    else (source.fieldText? s.node part).getD (source.textOf s.node)
termination_by s.size
decreasing_by
  · exact t.property
  · exact t.property

end CodeAtlas.Outline
