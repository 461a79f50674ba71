import CodeAtlas.Outline.Walk

/-!
Calls made by a function.

A call belongs to the innermost scope around the name of what is called. The calls of a function are therefore found
by going down from it and not into scopes inside it.
-/
namespace CodeAtlas.Outline

open CodeAtlas.Graph
open CodeAtlas.Syntax

/-- Where the name of something called stands: the kind of the name, and then, going up, the field it is in and the
kind of what it stands in. -/
structure CalleePattern where
  kind : String
  path : List (String × String)

/-- Whether the way up from a site begins with the given fields and kinds. -/
def climbs : List (String × String) → Site → Bool
  | [], _ => true
  | (field, kind) :: rest, s =>
    match s.above with
    | none => false
    | some a => s.field == some field && a.kind == kind && climbs rest a

/-- Whether a site is the name of something called. -/
def CalleePattern.fits (p : CalleePattern) (s : Site) : Bool :=
  s.node.named && s.kind == p.kind && climbs p.path s

/-- How a language writes calls. -/
structure CallRules where
  patterns : List CalleePattern
  isScope : Site → Bool

namespace CallRules

/-- Whether a site is the name of something called. -/
def isCallee (rules : CallRules) (s : Site) : Bool :=
  rules.patterns.any (·.fits s)

/-- The names of what is called below a site, but not inside another scope. -/
def callees (rules : CallRules) (s : Site) : List Site :=
  s.children.flatMap fun c =>
    (if rules.isCallee c.val then [c.val] else []) ++
      (if rules.isScope c.val then [] else rules.callees c.val)
termination_by s.size
decreasing_by exact c.property

/-- The calls of the function at a site, whose identifier is `id`. -/
def calls (rules : CallRules) (source : Source) (id : String) (s : Site) : List Reference :=
  if rules.isScope s then
    (rules.callees s).map fun c => ⟨id, source.textOf c.node, .calls, c.start.row + 1⟩
  else []

end CallRules
end CodeAtlas.Outline
