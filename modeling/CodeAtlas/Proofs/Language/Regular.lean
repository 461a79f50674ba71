/-
The readers of the four languages are regular.

Declarations cover the node at which they are found.  Only two of them are found
elsewhere than they are written: a variable of JavaScript covers its declarator and
not the whole statement, and a function that is bound to a variable is written at the
value of the declarator.
-/
import CodeAtlas.Language.Java
import CodeAtlas.Language.JavaScript
import CodeAtlas.Language.Python
import CodeAtlas.Language.Rust
import CodeAtlas.Proofs.Outline.Regular

namespace CodeAtlas

open CodeAtlas.Graph
open CodeAtlas.Outline
open CodeAtlas.Syntax

namespace Outline

variable {rules : CallRules} {source : Source} {s d : Site}

/-- Findings that are all declarations with nothing inside. -/
theorem foundAt_of_leaves : ∀ {fs : List (Finding s)}, (∀ f ∈ fs, ∃ e, f = .leaf e ∧ e.extent = d.extent) →
    FoundAt rules source d fs := by
  intro fs h
  have hlist : ∃ elements : List Element, (∀ e ∈ elements, e.extent = d.extent) ∧ fs = elements.map .leaf := by
    induction fs with
    | nil => exact ⟨[], List.forall_mem_nil _, rfl⟩
    | cons f rest ih =>
        obtain ⟨e, hf, he⟩ := h f List.mem_cons_self
        obtain ⟨elements, hcovers, hrest⟩ := ih fun g hg => h g (List.mem_cons_of_mem _ hg)
        exact ⟨e :: elements, List.forall_mem_cons.mpr ⟨he, hcovers⟩, by rw [hf, hrest, List.map_cons]⟩
  obtain ⟨elements, hcovers, rfl⟩ := hlist
  exact .leaves hcovers

theorem foundAt_inside : FoundAt rules source s [(.inside : Finding s)] :=
  foundAt_of_goesOn (.inside rfl)

/-- A function whose signature and body are its own node. -/
theorem foundAt_function {e : Element} {references : List Reference} (covers : e.extent = s.extent)
    (kind : e.kind = .function)
    (calls : references = if (s.child? "body").isSome then rules.calls source e.id s else []) :
    FoundAt rules source s [.scope e references (s.child? "body") true] := by
  refine foundAt_of_goesOn (.function covers kind (Or.inl rfl) (fun b hb => Site.holds_of_child? hb) ?_)
  rw [calls]
  split
  · exact callsIn_calls _ _
  · rfl

/-- A declaration whose body, if it has one, is a child. -/
theorem foundAt_block {e : Element} {references : List Reference} {body : Option s.Below}
    (covers : e.extent = s.extent) (kind : e.kind ≠ .function) (body_eq : body = s.child? "body" ∨ body = none)
    (calls : ∀ r ∈ references, r.kind ≠ .calls) : FoundAt rules source s [.scope e references body false] := by
  refine foundAt_of_goesOn (.block covers kind ?_ (callsIn_eq_nil calls))
  intro b hb
  rcases body_eq with hbody | hbody
  · exact Site.holds_of_child? (hbody.symm.trans hb)
  · rw [hbody] at hb
    cases hb

end Outline

namespace Language.Python

variable {source : Source} {context : Context} {s : Site}

theorem function_found : FoundAt callRules source s (function source context s) := by
  unfold function
  split
  · exact foundAt_nil
  · simp only []
    split
    · next hbody =>
      rw [← hbody]
      exact foundAt_function rfl rfl (by rw [hbody]; rfl)
    · next body hbody =>
      rw [← hbody]
      exact foundAt_function rfl rfl (by rw [hbody]; rfl)

theorem classDefinition_found : FoundAt callRules source s (classDefinition source context s) := by
  unfold classDefinition
  split
  · exact foundAt_nil
  · refine foundAt_block rfl (by intro h; cases h) (Or.inl rfl) ?_
    intro r hr
    split at hr
    · cases hr
    · obtain ⟨base, -, hbase⟩ := List.mem_filterMap.mp hr
      split at hbase
      · cases hbase
        intro h
        cases h
      · cases hbase

theorem imports_found : FoundAt callRules source s (imports source s) := by
  refine foundAt_of_leaves ?_
  intro f hf
  obtain ⟨name, -, hname⟩ := List.mem_filterMap.mp hf
  obtain ⟨path, -, rfl⟩ := Option.map_eq_some_iff.mp hname
  exact ⟨_, rfl, rfl⟩

theorem importFrom_found : FoundAt callRules source s (importFrom source s) := by
  unfold importFrom
  split
  · exact foundAt_nil
  · exact foundAt_leaf rfl

theorem assignment_found : FoundAt callRules source s (assignment source context s) := by
  unfold assignment
  split
  · exact foundAt_nil
  · split
    · split
      · exact foundAt_nil
      · split
        · exact foundAt_leaf rfl
        · exact foundAt_nil
    · exact foundAt_nil

theorem read_regular (source : Source) : (read source).Regular callRules source := by
  intro context s
  refine Or.inl ?_
  unfold read
  split
  · exact function_found
  · exact classDefinition_found
  · split
    · next d hd => exact foundAt_of_goesOn (.readOn (Site.holds_of_child? hd))
    · exact foundAt_nil
  · exact imports_found
  · exact importFrom_found
  · split
    · exact foundAt_inside
    · exact assignment_found
  · exact foundAt_inside

end Language.Python

namespace Language.JavaScript

variable {source : Source} {context : Context} {s : Site}

theorem namedFunction_found : FoundAt callRules source s
    (match source.fieldText? s.node "name" with
      | some name => [Finding.scope (functionElement source context name s s).1
          (functionElement source context name s s).2 (s.child? "body") true]
      | none => [.inside]) := by
  split
  · exact foundAt_function rfl rfl rfl
  · exact foundAt_inside

theorem classDeclaration_found : FoundAt callRules source s (classDeclaration source context s) := by
  unfold classDeclaration
  split
  · exact foundAt_nil
  · refine foundAt_block rfl (by intro h; cases h) (Or.inl rfl) ?_
    intro r hr
    obtain ⟨c, -, hc⟩ := List.mem_filterMap.mp hr
    split at hc
    · obtain ⟨base, -, rfl⟩ := Option.map_eq_some_iff.mp hc
      intro h
      cases h
    · cases hc

theorem fieldDefinition_found : FoundAt callRules source s (fieldDefinition source context s) := by
  unfold fieldDefinition
  split
  · exact foundAt_nil
  · exact foundAt_leaf rfl

/-- What a declarator declares covers the declarator. -/
theorem declarator_found (d : s.Below) : FoundAt callRules source d.val (declarator source context s d) := by
  unfold declarator
  split
  · exact foundAt_nil
  · next nameNode _ =>
    simp only []
    -- The variable, if it counts, comes before anything else.
    have hbinding : ∃ elements : List Element, (∀ e ∈ elements, e.extent = d.val.extent) ∧
        (if nameNode.kind == "identifier" && !context.inFunction then
          [(.leaf { source.element (source.textOf nameNode) .binding d.val.node with
            parent := context.parent } : Finding s)]
        else []) = elements.map .leaf := by
      split
      · exact ⟨[_], List.forall_mem_singleton.mpr rfl, rfl⟩
      · exact ⟨[], List.forall_mem_nil _, rfl⟩
    obtain ⟨elements, hcovers, hleaves⟩ := hbinding
    rw [hleaves]
    split
    · exact .leaves hcovers
    · next value hvalue =>
      have hholds := Site.holds_of_child? hvalue
      split
      · -- A function is written at the value, and its body is a child of that.
        refine foundAt_of_goesOn (.function (f := value.val) rfl rfl (Or.inr (.child hholds)) ?_ ?_)
        · intro b hb
          obtain ⟨body, hbody, rfl⟩ := Option.map_eq_some_iff.mp hb
          exact Site.holds_of_child? hbody
        · rw [Option.isSome_map]
          unfold functionElement
          simp only []
          split
          · exact callsIn_calls _ _
          · rfl
      · exact .more hcovers (.readOn hholds)

theorem imports_found : FoundAt callRules source s (imports source s) := by
  unfold imports
  split
  · exact foundAt_nil
  · exact foundAt_leaf rfl

theorem declarators_regular : ∃ (held : List s.Below) (found : s.Below → List (Finding s)),
    held.Sublist s.children ∧
    (s.namedChildren.filter (·.val.kind == "variable_declarator")).flatMap (declarator source context s) =
      held.flatMap found ∧
    ∀ d ∈ held, FoundAt callRules source d.val (found d) :=
  ⟨_, declarator source context s, List.filter_sublist.trans s.namedChildren_sublist, rfl,
    fun d _ => declarator_found d⟩

theorem read_regular (source : Source) : (read source).Regular callRules source := by
  intro context s
  unfold read
  split
  · exact Or.inl namedFunction_found
  · exact Or.inl namedFunction_found
  · exact Or.inl namedFunction_found
  · exact Or.inl classDeclaration_found
  · refine Or.inl ?_
    split
    · exact foundAt_inside
    · exact fieldDefinition_found
  · exact Or.inr declarators_regular
  · exact Or.inr declarators_regular
  · exact Or.inl imports_found
  · exact Or.inl foundAt_inside

end Language.JavaScript

namespace Language.Java

variable {source : Source} {context : Context} {s : Site}

theorem kind_of_mem_typesNamed {id : String} {kind : RelationshipKind} {clause : Site} {r : Reference}
    (h : r ∈ typesNamed source id kind clause) : r.kind = kind := by
  obtain ⟨c, -, hc⟩ := List.mem_flatMap.mp h
  split at hc
  · obtain ⟨t, -, rfl⟩ := List.mem_map.mp hc
    rfl
  · rw [List.mem_singleton.mp hc]

theorem typeDeclaration_found : FoundAt callRules source s (typeDeclaration source context s) := by
  unfold typeDeclaration
  split
  · exact foundAt_nil
  · refine foundAt_block rfl (by intro h; cases h) (Or.inl rfl) ?_
    -- Whichever clause a type is named in, it is no call.
    have hclause : ∀ {kind : RelationshipKind} {id : String} {clauses : List s.Below} {r : Reference},
        kind ≠ .calls → r ∈ clauses.flatMap (fun clause => typesNamed source id kind clause.val) → r.kind ≠ .calls := by
      intro kind id clauses r hkind hr
      obtain ⟨clause, -, hc⟩ := List.mem_flatMap.mp hr
      rw [kind_of_mem_typesNamed hc]
      exact hkind
    intro r hr
    rcases List.mem_append.mp hr with hr | hr
    · rcases List.mem_append.mp hr with hr | hr
      · exact hclause (by decide) hr
      · exact hclause (by decide) hr
    · exact hclause (by decide) hr

theorem method_found : FoundAt callRules source s (method source context s) := by
  unfold method
  split
  · exact foundAt_nil
  · exact foundAt_function rfl rfl rfl

theorem fields_found : FoundAt callRules source s (fields source context s) := by
  refine foundAt_of_leaves ?_
  intro f hf
  obtain ⟨d, -, hd⟩ := List.mem_filterMap.mp hf
  obtain ⟨name, -, rfl⟩ := Option.map_eq_some_iff.mp hd
  exact ⟨_, rfl, rfl⟩

theorem imports_found : FoundAt callRules source s (imports source s) := by
  unfold imports
  simp only []
  split
  · exact foundAt_nil
  · exact foundAt_leaf rfl

theorem read_regular (source : Source) : (read source).Regular callRules source := by
  intro context s
  refine Or.inl ?_
  unfold read
  split
  · exact typeDeclaration_found
  · split
    · exact method_found
    · split
      · split
        · exact foundAt_inside
        · exact fields_found
      · exact imports_found
      · exact foundAt_inside

end Language.Java

namespace Language.Rust

variable {source : Source} {context : Context} {s : Site}

theorem function_found : FoundAt callRules source s (function source context s) := by
  unfold function
  split
  · exact foundAt_nil
  · exact foundAt_function rfl rfl rfl

theorem block_found {kind : ElementKind} {hasItems : Bool} (hkind : kind ≠ .function) :
    FoundAt callRules source s (block source context kind hasItems s) := by
  unfold block
  split
  · exact foundAt_nil
  · refine foundAt_block rfl hkind ?_ (List.forall_mem_nil _)
    cases hasItems with
    | true => exact Or.inl rfl
    | false => exact Or.inr rfl

theorem implementation_found : FoundAt callRules source s (implementation source context s) := by
  unfold implementation
  split
  · exact foundAt_nil
  · refine foundAt_of_goesOn (.attached (fun b hb => Site.holds_of_child? hb) (callsIn_eq_nil ?_))
    intro r hr
    split at hr
    · cases hr
    · rw [List.mem_singleton.mp hr]
      intro h
      cases h

theorem imports_found : FoundAt callRules source s (imports source s) := by
  unfold imports
  split
  · exact foundAt_nil
  · exact foundAt_leaf rfl

theorem constant_found : FoundAt callRules source s (constant source context s) := by
  unfold constant
  split
  · exact foundAt_nil
  · exact foundAt_leaf rfl

theorem read_regular (source : Source) : (read source).Regular callRules source := by
  intro context s
  refine Or.inl ?_
  unfold read
  split
  · exact function_found
  · exact function_found
  · exact block_found (by decide)
  · exact block_found (by decide)
  · exact block_found (by decide)
  · exact block_found (by decide)
  · exact block_found (by decide)
  · exact implementation_found
  · exact imports_found
  · split
    · exact foundAt_inside
    · exact constant_found
  · split
    · exact foundAt_inside
    · exact constant_found
  · exact foundAt_inside

end Language.Rust

namespace Language

/-- The languages, and how calls are written in them. -/
def callRules : List (Parsing.Support × CallRules) :=
  [(python, Python.callRules), (javascript, JavaScript.callRules), (java, Java.callRules), (rust, Rust.callRules)]

/-- **All readers are regular.** -/
theorem regular_of_mem {support : Parsing.Support} {rules : CallRules} (h : (support, rules) ∈ callRules)
    (source : Source) : (support.read source).Regular rules source := by
  simp only [callRules, List.mem_cons, List.not_mem_nil, or_false] at h
  rcases h with h | h | h | h <;> cases h
  · exact Python.read_regular source
  · exact JavaScript.read_regular source
  · exact Java.read_regular source
  · exact Rust.read_regular source

end Language
end CodeAtlas
