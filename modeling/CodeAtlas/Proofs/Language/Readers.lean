/-
What the readers of the four languages find is placed.

For every kind of declaration there is one lemma, and the reader of a language puts
them together.  Only Rust attaches anything to a type declared elsewhere: the
readers of the other three languages are direct.
-/
import CodeAtlas.Language.Java.Reader
import CodeAtlas.Language.JavaScript.Reader
import CodeAtlas.Language.Python.Reader
import CodeAtlas.Language.Rust.Reader
import CodeAtlas.Proofs.Outline.Placement

namespace CodeAtlas

open CodeAtlas.Graph
open CodeAtlas.Outline
open CodeAtlas.Syntax

theorem Outline.CallRules.source_of_mem_calls {rules : CallRules} {source : Source} {id : String} {s : Site}
    {r : Reference} (h : r ∈ rules.calls source id s) : r.source = id := by
  unfold CallRules.calls at h
  split at h
  · obtain ⟨c, -, rfl⟩ := List.mem_map.mp h
    rfl
  · simp at h

/-- A finding that is placed and puts its declarations where they stand. -/
def Outline.Finding.Fits (path : String) (context : Context) {s : Site} (f : Finding s) : Prop :=
  f.Placed path context ∧ f.isAttached = false

theorem Outline.Finding.fits_of_mem_inside {path : String} {context : Context} {s : Site} {f : Finding s}
    (h : f ∈ [.inside]) : f.Fits path context := by
  rw [List.mem_singleton.mp h]
  exact ⟨trivial, rfl⟩

theorem Outline.Finding.fits_of_mem_readOn {path : String} {context : Context} {s : Site} {t : s.Below}
    {f : Finding s} (h : f ∈ [.readOn t]) : f.Fits path context := by
  rw [List.mem_singleton.mp h]
  exact ⟨trivial, rfl⟩

namespace Language.Python

theorem function_fits {source : Source} {context : Context} {s : Site} :
    ∀ f ∈ function source context s, f.Fits source.path context := by
  intro f hf
  unfold function at hf
  split at hf
  · simp at hf
  · simp only [] at hf
    split at hf
    · rw [List.mem_singleton.mp hf]
      exact ⟨⟨⟨rfl, rfl, rfl⟩, (by intro h; cases h), by simp⟩, rfl⟩
    · rw [List.mem_singleton.mp hf]
      exact ⟨⟨⟨rfl, rfl, rfl⟩, (by intro h; cases h), fun _ => CallRules.source_of_mem_calls⟩, rfl⟩

theorem classDefinition_fits {source : Source} {context : Context} {s : Site} :
    ∀ f ∈ classDefinition source context s, f.Fits source.path context := by
  intro f hf
  unfold classDefinition at hf
  split at hf
  · simp at hf
  · rw [List.mem_singleton.mp hf]
    refine ⟨⟨⟨rfl, rfl, rfl⟩, (by intro h; cases h), ?_⟩, rfl⟩
    intro r hr
    split at hr
    · simp at hr
    · obtain ⟨base, -, hbase⟩ := List.mem_filterMap.mp hr
      split at hbase
      · cases hbase
        rfl
      · cases hbase

theorem imports_fits {source : Source} {context : Context} {s : Site} :
    ∀ f ∈ imports source s, f.Fits source.path context := by
  intro f hf
  obtain ⟨name, -, hname⟩ := List.mem_filterMap.mp hf
  obtain ⟨path, -, rfl⟩ := Option.map_eq_some_iff.mp hname
  exact ⟨⟨rfl, rfl, rfl⟩, rfl⟩

theorem importFrom_fits {source : Source} {context : Context} {s : Site} :
    ∀ f ∈ importFrom source s, f.Fits source.path context := by
  intro f hf
  unfold importFrom at hf
  split at hf
  · simp at hf
  · rw [List.mem_singleton.mp hf]
    exact ⟨⟨rfl, rfl, rfl⟩, rfl⟩

theorem assignment_fits {source : Source} {context : Context} {s : Site} :
    ∀ f ∈ assignment source context s, f.Fits source.path context := by
  intro f hf
  unfold assignment at hf
  split at hf
  · simp at hf
  · split at hf
    · split at hf
      · simp at hf
      · split at hf
        · rw [List.mem_singleton.mp hf]
          exact ⟨⟨rfl, rfl, rfl⟩, rfl⟩
        · simp at hf
    · simp at hf

theorem read_fits (source : Source) (context : Context) (s : Site) :
    ∀ f ∈ read source context s, f.Fits source.path context := by
  intro f hf
  unfold read at hf
  split at hf
  · exact function_fits f hf
  · exact classDefinition_fits f hf
  · split at hf
    · exact Finding.fits_of_mem_readOn hf
    · simp at hf
  · exact imports_fits f hf
  · exact importFrom_fits f hf
  · split at hf
    · exact Finding.fits_of_mem_inside hf
    · exact assignment_fits f hf
  · exact Finding.fits_of_mem_inside hf

end Language.Python

namespace Language.JavaScript

theorem functionElement_placed (source : Source) (context : Context) (name : String) (s f : Site) :
    (functionElement source context name s f).1.Placed source.path context.parent :=
  ⟨rfl, rfl, rfl⟩

theorem source_of_mem_functionElement {source : Source} {context : Context} {name : String} {s f : Site}
    {r : Reference} (h : r ∈ (functionElement source context name s f).2) :
    r.source = (functionElement source context name s f).1.id := by
  unfold functionElement at h
  simp only [] at h
  split at h
  · exact CallRules.source_of_mem_calls h
  · simp at h

theorem classDeclaration_fits {source : Source} {context : Context} {s : Site} :
    ∀ f ∈ classDeclaration source context s, f.Fits source.path context := by
  intro f hf
  unfold classDeclaration at hf
  split at hf
  · simp at hf
  · rw [List.mem_singleton.mp hf]
    refine ⟨⟨⟨rfl, rfl, rfl⟩, (by intro h; cases h), ?_⟩, rfl⟩
    intro r hr
    obtain ⟨c, -, hc⟩ := List.mem_filterMap.mp hr
    split at hc
    · obtain ⟨base, -, rfl⟩ := Option.map_eq_some_iff.mp hc
      rfl
    · cases hc

theorem fieldDefinition_fits {source : Source} {context : Context} {s : Site} :
    ∀ f ∈ fieldDefinition source context s, f.Fits source.path context := by
  intro f hf
  unfold fieldDefinition at hf
  split at hf
  · simp at hf
  · rw [List.mem_singleton.mp hf]
    exact ⟨⟨rfl, rfl, rfl⟩, rfl⟩

theorem declarator_fits {source : Source} {context : Context} {s : Site} {d : s.Below} :
    ∀ f ∈ declarator source context s d, f.Fits source.path context := by
  intro f hf
  -- A variable that is no function is a leaf, if it counts at all.
  have hbinding : ∀ {b : Bool} {name : String} {f : Finding s},
      f ∈ (if b then
        [.leaf { source.element name .binding d.val.node with parent := context.parent }] else []) →
      f.Fits source.path context := by
    intro b name f hf
    split at hf
    · rw [List.mem_singleton.mp hf]
      exact ⟨⟨rfl, rfl, rfl⟩, rfl⟩
    · simp at hf
  unfold declarator at hf
  split at hf
  · simp at hf
  · simp only [] at hf
    split at hf
    · exact hbinding hf
    · split at hf
      · rw [List.mem_singleton.mp hf]
        exact ⟨⟨functionElement_placed _ _ _ _ _, (by intro h; cases h), fun _ => source_of_mem_functionElement⟩, rfl⟩
      · rcases List.mem_append.mp hf with hf | hf
        · exact hbinding hf
        · exact Finding.fits_of_mem_readOn hf

theorem imports_fits {source : Source} {context : Context} {s : Site} :
    ∀ f ∈ imports source s, f.Fits source.path context := by
  intro f hf
  unfold imports at hf
  split at hf
  · simp at hf
  · rw [List.mem_singleton.mp hf]
    exact ⟨⟨rfl, rfl, rfl⟩, rfl⟩

theorem namedFunction_fits {source : Source} {context : Context} {s : Site} :
    ∀ f ∈ (match source.fieldText? s.node "name" with
      | some name => [Finding.scope (functionElement source context name s s).1
          (functionElement source context name s s).2 (s.child? "body") true]
      | none => [.inside]), f.Fits source.path context := by
  intro f hf
  split at hf
  · rw [List.mem_singleton.mp hf]
    exact ⟨⟨functionElement_placed _ _ _ _ _, (by intro h; cases h), fun _ => source_of_mem_functionElement⟩, rfl⟩
  · exact Finding.fits_of_mem_inside hf

theorem read_fits (source : Source) (context : Context) (s : Site) :
    ∀ f ∈ read source context s, f.Fits source.path context := by
  intro f hf
  unfold read at hf
  split at hf
  · exact namedFunction_fits f hf
  · exact namedFunction_fits f hf
  · exact namedFunction_fits f hf
  · exact classDeclaration_fits f hf
  · split at hf
    · exact Finding.fits_of_mem_inside hf
    · exact fieldDefinition_fits f hf
  · obtain ⟨d, -, hd⟩ := List.mem_flatMap.mp hf
    exact declarator_fits f hd
  · obtain ⟨d, -, hd⟩ := List.mem_flatMap.mp hf
    exact declarator_fits f hd
  · exact imports_fits f hf
  · exact Finding.fits_of_mem_inside hf

end Language.JavaScript

namespace Language.Java

theorem source_of_mem_typesNamed {source : Source} {id : String} {kind : RelationshipKind} {clause : Site}
    {r : Reference} (h : r ∈ typesNamed source id kind clause) : r.source = id := by
  obtain ⟨c, -, hc⟩ := List.mem_flatMap.mp h
  split at hc
  · obtain ⟨t, -, rfl⟩ := List.mem_map.mp hc
    rfl
  · rw [List.mem_singleton.mp hc]

theorem typeDeclaration_fits {source : Source} {context : Context} {s : Site} :
    ∀ f ∈ typeDeclaration source context s, f.Fits source.path context := by
  intro f hf
  unfold typeDeclaration at hf
  split at hf
  · simp at hf
  · rw [List.mem_singleton.mp hf]
    refine ⟨⟨⟨rfl, rfl, rfl⟩, (by intro h; cases h), ?_⟩, rfl⟩
    intro r hr
    rcases List.mem_append.mp hr with hr | hr
    · rcases List.mem_append.mp hr with hr | hr
      · obtain ⟨clause, -, hc⟩ := List.mem_flatMap.mp hr
        exact source_of_mem_typesNamed hc
      · obtain ⟨clause, -, hc⟩ := List.mem_flatMap.mp hr
        exact source_of_mem_typesNamed hc
    · obtain ⟨clause, -, hc⟩ := List.mem_flatMap.mp hr
      exact source_of_mem_typesNamed hc

theorem method_fits {source : Source} {context : Context} {s : Site} :
    ∀ f ∈ method source context s, f.Fits source.path context := by
  intro f hf
  unfold method at hf
  split at hf
  · simp at hf
  · rw [List.mem_singleton.mp hf]
    refine ⟨⟨⟨rfl, rfl, rfl⟩, (by intro h; cases h), ?_⟩, rfl⟩
    intro r hr
    split at hr
    · exact CallRules.source_of_mem_calls hr
    · simp at hr

theorem fields_fits {source : Source} {context : Context} {s : Site} :
    ∀ f ∈ fields source context s, f.Fits source.path context := by
  intro f hf
  obtain ⟨d, -, hd⟩ := List.mem_filterMap.mp hf
  obtain ⟨name, -, rfl⟩ := Option.map_eq_some_iff.mp hd
  exact ⟨⟨rfl, rfl, rfl⟩, rfl⟩

theorem imports_fits {source : Source} {context : Context} {s : Site} :
    ∀ f ∈ imports source s, f.Fits source.path context := by
  intro f hf
  unfold imports at hf
  simp only [] at hf
  split at hf
  · simp at hf
  · rw [List.mem_singleton.mp hf]
    exact ⟨⟨rfl, rfl, rfl⟩, rfl⟩

theorem read_fits (source : Source) (context : Context) (s : Site) :
    ∀ f ∈ read source context s, f.Fits source.path context := by
  intro f hf
  unfold read at hf
  split at hf
  · exact typeDeclaration_fits f hf
  · split at hf
    · exact method_fits f hf
    · split at hf
      · split at hf
        · exact Finding.fits_of_mem_inside hf
        · exact fields_fits f hf
      · exact imports_fits f hf
      · exact Finding.fits_of_mem_inside hf

end Language.Java

namespace Language.Rust

theorem function_fits {source : Source} {context : Context} {s : Site} :
    ∀ f ∈ function source context s, f.Fits source.path context := by
  intro f hf
  unfold function at hf
  split at hf
  · simp at hf
  · rw [List.mem_singleton.mp hf]
    refine ⟨⟨⟨rfl, rfl, rfl⟩, (by intro h; cases h), ?_⟩, rfl⟩
    intro r hr
    split at hr
    · exact CallRules.source_of_mem_calls hr
    · simp at hr

theorem block_fits {source : Source} {context : Context} {kind : ElementKind} {hasItems : Bool} {s : Site}
    (hkind : kind ≠ .dependency) : ∀ f ∈ block source context kind hasItems s, f.Fits source.path context := by
  intro f hf
  unfold block at hf
  split at hf
  · simp at hf
  · rw [List.mem_singleton.mp hf]
    exact ⟨⟨⟨rfl, rfl, (if_neg hkind).symm⟩, hkind, by simp⟩, rfl⟩

theorem implementation_placed {source : Source} {context : Context} {s : Site} :
    ∀ f ∈ implementation source context s, f.Placed source.path context := by
  intro f hf
  unfold implementation at hf
  split at hf
  · simp at hf
  · rw [List.mem_singleton.mp hf]
    refine ⟨⟨_, rfl⟩, ?_⟩
    intro r hr
    split at hr
    · simp at hr
    · rw [List.mem_singleton.mp hr]

theorem imports_fits {source : Source} {context : Context} {s : Site} :
    ∀ f ∈ imports source s, f.Fits source.path context := by
  intro f hf
  unfold imports at hf
  split at hf
  · simp at hf
  · rw [List.mem_singleton.mp hf]
    exact ⟨⟨rfl, rfl, rfl⟩, rfl⟩

theorem constant_fits {source : Source} {context : Context} {s : Site} :
    ∀ f ∈ constant source context s, f.Fits source.path context := by
  intro f hf
  unfold constant at hf
  split at hf
  · simp at hf
  · rw [List.mem_singleton.mp hf]
    exact ⟨⟨rfl, rfl, rfl⟩, rfl⟩

theorem read_placed (source : Source) (context : Context) (s : Site) :
    ∀ f ∈ read source context s, f.Placed source.path context := by
  intro f hf
  unfold read at hf
  split at hf
  · exact (function_fits f hf).1
  · exact (function_fits f hf).1
  · exact (block_fits (by decide) f hf).1
  · exact (block_fits (by decide) f hf).1
  · exact (block_fits (by decide) f hf).1
  · exact (block_fits (by decide) f hf).1
  · exact (block_fits (by decide) f hf).1
  · exact implementation_placed f hf
  · exact (imports_fits f hf).1
  · split at hf
    · exact (Finding.fits_of_mem_inside hf).1
    · exact (constant_fits f hf).1
  · split at hf
    · exact (Finding.fits_of_mem_inside hf).1
    · exact (constant_fits f hf).1
  · exact (Finding.fits_of_mem_inside hf).1

end Language.Rust
end CodeAtlas
