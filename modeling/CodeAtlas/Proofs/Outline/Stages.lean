/-
A walk, stage by stage.

At each stage of a walk the reader looks at one site, in certain circumstances and
with a bound on how much deeper the walk may go.  What it finds there leads to further
stages: `Finding.next` lists them, and `Visits` is what comes of going on and on.

Seen like this, a walk does the same at every stage.  Each finding contributes what it
is itself and then what the next stages contribute, in their order.  `elements_eq` and
`references_eq` say so of the flattened outline, and whatever holds of all that a file
declares follows from these two by induction on the size of the site.
-/
import CodeAtlas.Proofs.Outline.Placement
import CodeAtlas.Proofs.Syntax.Sites

namespace CodeAtlas.Outline

open CodeAtlas.Graph
open CodeAtlas.Syntax

/-- A site to be read, with the bound on the depth and the circumstances. -/
structure Stage where
  limit : Option Nat
  context : Context
  site : Site

/-- The stages after entering the list of children of a site, if it may be entered. -/
def entered (limit : Option Nat) (context : Context) (s : Site) : List Stage :=
  match enter? limit with
  | none => []
  | some limit => s.namedChildren.map fun c => ⟨limit, context, c.val⟩

namespace Finding

variable {s : Site}

/-- The stages that a finding leads to. -/
def next (limit : Option Nat) (context : Context) : Finding s → List Stage
  | .leaf _ => []
  | .scope e _ body isFunction => body.elim [] fun b => entered limit ⟨some e.id, isFunction⟩ b.val
  | .attached owner _ body => body.elim [] fun b => entered limit ⟨some owner, false⟩ b.val
  | .readOn t => [⟨limit, context, t.val⟩]
  | .inside => entered limit context s

/-- The references that a finding makes itself. -/
def references : Finding s → List Reference
  | .scope _ references _ _ | .attached _ references _ => references
  | .leaf _ | .readOn _ | .inside => []

/-- The element that a finding declares, with the children that it has among the elements `inner`. -/
def own (inner : List Element) : Finding s → List Element
  | .leaf e => [e]
  | .scope e _ _ _ => [e.withChildren (childrenOf e.id inner)]
  | .attached _ _ _ | .readOn _ | .inside => []

/-- The finding is a function `e` with a body, and its signature and body stand at the site `f`. -/
def IsFunction (e : Element) (f : Site) : Finding s → Prop
  | .scope e' _ (some b) true => e' = e ∧ e.kind = .function ∧ b.val.above = some f
  | _ => False

end Finding

namespace Stage

/-- What is found at a stage. -/
def findings (read : Reader) (v : Stage) : List (Finding v.site) :=
  read v.context v.site

/-- The stages that come right after one. -/
def next (read : Reader) (v : Stage) : List Stage :=
  (v.findings read).flatMap (Finding.next v.limit v.context)

/-- What a file declares at a stage and after it. -/
def extraction (read : Reader) (v : Stage) : Extraction :=
  extractionAll (walk read v.limit v.context v.site)

/-- A walk that is at the stage `v` comes to the stage `w`, or is there. -/
inductive Visits (read : Reader) : Stage → Stage → Prop
  | here (v : Stage) : Visits read v v
  | later {v u w : Stage} (hu : u ∈ v.next read) (hw : Visits read u w) : Visits read v w

theorem visits_iff {read : Reader} {v w : Stage} :
    Visits read v w ↔ w = v ∨ ∃ u ∈ v.next read, Visits read u w := by
  constructor
  · intro h
    cases h with
    | here => exact Or.inl rfl
    | later hu hw => exact Or.inr ⟨_, hu, hw⟩
  · rintro (rfl | ⟨u, hu, hw⟩)
    · exact .here _
    · exact .later hu hw

/-- At the stage `v` a function `e` with a body is declared, and its signature and body stand at the site `f`. -/
def Declares (read : Reader) (v : Stage) (e : Element) (f : Site) : Prop :=
  ∃ found ∈ v.findings read, found.IsFunction e f

end Stage

/-- A walk through a tree comes to the stage `v`. -/
def Reaches (read : Reader) (limit : Option Nat) (tree : Node) (v : Stage) : Prop :=
  ∃ u ∈ entered limit ⟨none, false⟩ (.root tree), Stage.Visits read u v

/-! ### What walking from a stage contributes -/

/-- Entering a site means walking from every stage that this leads to. -/
theorem walkInside_eq (read : Reader) (limit : Option Nat) (context : Context) (s : Site) :
    walkInside read limit context s =
      (entered limit context s).flatMap fun v => walk read v.limit v.context v.site := by
  unfold walkInside entered
  cases enter? limit with
  | none => rfl
  | some limit => simp only [List.flatMap_map]

section

variable {read : Reader} {limit : Option Nat} {context : Context} {s : Site}

theorem elements_walkInside : (extractionAll (walkInside read limit context s)).elements =
    (entered limit context s).flatMap fun v => (v.extraction read).elements := by
  rw [extractionAll_elements, walkInside_eq, List.flatMap_assoc]
  simp only [Stage.extraction, extractionAll_elements]

theorem references_walkInside : (extractionAll (walkInside read limit context s)).references =
    (entered limit context s).flatMap fun v => (v.extraction read).references := by
  rw [extractionAll_references, walkInside_eq, List.flatMap_assoc]
  simp only [Stage.extraction, extractionAll_references]

/-- The parts that stand in a body, if there is one. -/
theorem elements_body (body : Option s.Below) :
    (extractionAll (body.elim [] fun b => walkInside read limit context b.val)).elements =
      (body.elim [] fun b => entered limit context b.val).flatMap fun v => (v.extraction read).elements := by
  cases body with
  | none => rfl
  | some b => exact elements_walkInside

theorem references_body (body : Option s.Below) :
    (extractionAll (body.elim [] fun b => walkInside read limit context b.val)).references =
      (body.elim [] fun b => entered limit context b.val).flatMap fun v => (v.extraction read).references := by
  cases body with
  | none => rfl
  | some b => exact references_walkInside

end

namespace Stage

variable {read : Reader}

/-- What is declared at the stages after a finding. -/
def elementsAfter (read : Reader) (v : Stage) (found : Finding v.site) : List Element :=
  (found.next v.limit v.context).flatMap fun u => (u.extraction read).elements

/-- What is referred to at the stages after a finding. -/
def referencesAfter (read : Reader) (v : Stage) (found : Finding v.site) : List Reference :=
  (found.next v.limit v.context).flatMap fun u => (u.extraction read).references

theorem elements_ofFinding (v : Stage) (found : Finding v.site) :
    (extractionAll (ofFinding read v.limit v.context found)).elements =
      found.own (v.elementsAfter read found) ++ v.elementsAfter read found := by
  unfold elementsAfter
  cases found with
  | leaf e => rfl
  | scope e references body isFunction =>
      rw [ofFinding, extractionAll_elements, List.flatMap_singleton, Finding.next, ← elements_body body]
      rfl
  | attached owner references body =>
      rw [ofFinding, extractionAll_elements, List.flatMap_singleton, Finding.next, ← elements_body body]
      rfl
  | readOn t =>
      rw [ofFinding, Finding.next, List.flatMap_singleton]
      rfl
  | inside =>
      rw [ofFinding, Finding.next, ← elements_walkInside]
      rfl

theorem references_ofFinding (v : Stage) (found : Finding v.site) :
    (extractionAll (ofFinding read v.limit v.context found)).references =
      found.references ++ v.referencesAfter read found := by
  unfold referencesAfter
  cases found with
  | leaf e => rfl
  | scope e references body isFunction =>
      rw [ofFinding, extractionAll_references, List.flatMap_singleton, Finding.next, ← references_body body]
      rfl
  | attached owner references body =>
      rw [ofFinding, extractionAll_references, List.flatMap_singleton, Finding.next, ← references_body body]
      rfl
  | readOn t =>
      rw [ofFinding, Finding.next, List.flatMap_singleton]
      rfl
  | inside =>
      rw [ofFinding, Finding.next, ← references_walkInside]
      rfl

/-- **What is declared at a stage and after it**, finding by finding. -/
theorem elements_eq (v : Stage) : (v.extraction read).elements =
    (v.findings read).flatMap fun found => found.own (v.elementsAfter read found) ++ v.elementsAfter read found := by
  unfold extraction findings
  rw [walk_eq, extractionAll_elements, List.flatMap_assoc]
  simp only [← extractionAll_elements, elements_ofFinding v]

/-- **What is referred to at a stage and after it**, finding by finding. -/
theorem references_eq (v : Stage) : (v.extraction read).references =
    (v.findings read).flatMap fun found => found.references ++ v.referencesAfter read found := by
  unfold extraction findings
  rw [walk_eq, extractionAll_references, List.flatMap_assoc]
  simp only [← extractionAll_references, references_ofFinding v]

end Stage
end CodeAtlas.Outline
