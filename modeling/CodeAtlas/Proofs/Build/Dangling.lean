/-
No relationship of a build leads nowhere.

What it takes for all relationships of a build to end at elements is known of each
file by itself: that the file is grounded.  Extractions that are nested and closed
are, and those that have no relationships at all.

Rust is left out.  The items of an implementation belong to a type that may be
declared in another file, and then nothing is stored under the owner they name.
-/
import CodeAtlas.Proofs.Build.Merge

namespace CodeAtlas.Graph.Extraction

theorem Nested.grounded {path : String} {parent : Option String} {x : Extraction} (h : Nested path parent x)
    (hclosed : Closed x) : Grounded x := by
  refine ⟨?_, ?_, ?_⟩
  · intro r hr
    obtain ⟨d, hd, hid, -⟩ := hclosed.listed r hr
    exact List.mem_map.mpr ⟨d, hd, hid⟩
  · intro r hr
    obtain ⟨-, e, he, -, hid⟩ := h.edges r hr
    exact List.mem_map.mpr ⟨e, he, hid⟩
  · intro r hr
    obtain ⟨d, hd, hid⟩ := hclosed.referring r hr
    exact List.mem_map.mpr ⟨d, hd, hid⟩

end CodeAtlas.Graph.Extraction

namespace CodeAtlas.Build

open CodeAtlas.Graph
open CodeAtlas.Graph.Assembler
open CodeAtlas.Graph.Extraction
open CodeAtlas.Parsing

theorem grounded_of_origin {path : String} {x : Extraction}
    (h : ByGrammar directGrammars path x ∨ ByPatterns path x) : Grounded x := by
  rcases h with hgrammar | hpatterns
  · exact hgrammar.of_direct.nested.grounded hgrammar.closed
  · obtain ⟨hrelationships, hreferences⟩ := hpatterns.relationships_eq
    constructor
    · simp [hrelationships]
    · simp [hrelationships]
    · simp [hreferences]

/--
**No relationship of a build dangles.**  Whatever files are merged, in whatever
order, if each was read by the grammar of Python, JavaScript or Java, from any tree
at all, or by the patterns of any language, then the edges of the graph are its
relationships, in the same order and equally often, and all of them begin and end at
elements.
-/
theorem edges_eq_relationships (outcomes : List Outcome)
    (h : ∀ o ∈ outcomes, ∀ x strategy, o.result = some (x, strategy) →
      ByGrammar directGrammars o.path x ∨ ByPatterns o.path x) :
    (ofOutcomes outcomes).1.edges = (ofOutcomes outcomes).1.relationships ∧
      ∀ r ∈ (ofOutcomes outcomes).1.relationships,
        r.source ∈ (ofOutcomes outcomes).1.elements ∧ r.target ∈ (ofOutcomes outcomes).1.elements := by
  have hgrounded : ∀ p ∈ merged outcomes, p.2.Grounded := by
    intro p hp
    obtain ⟨o, ho, -, strategy, hresult⟩ := mem_merged.mp hp
    exact grounded_of_origin (h o ho p.2 strategy hresult)
  have hends := finish_ends_of_grounded hgrounded
  rw [ofOutcomes_graph]
  exact ⟨finish_edges_of_ends hends, hends⟩

/-- Three files: a class and one derived from it, a function found by patterns, and a file that could not be read. -/
def derivedClassOutcomes : List Outcome :=
  let text := "class B: y = 2\nclass A(B): x = 1\n"
  let tree := moduleOf [Line.classDefinition ⟨0, 0⟩, Line.derivedClass ⟨1, 15⟩]
  [⟨"a.py", some (Language.python.extract (some Outline.depthLimit) ⟨"a.py", text⟩ tree, .grammar)⟩,
    ⟨"b.go", some (Pattern.extract "func f()\n" "go" "b.go", .pattern)⟩,
    ⟨"c.py", none⟩]

theorem edges_of_derived_class :
    (∀ o ∈ derivedClassOutcomes, ∀ x strategy, o.result = some (x, strategy) →
      ByGrammar directGrammars o.path x ∨ ByPatterns o.path x) ∧
    (ofOutcomes derivedClassOutcomes).1.relationships =
      [⟨"a.py:B", "a.py:B:y", .contains⟩, ⟨"a.py:A", "a.py:A:x", .contains⟩, ⟨"a.py:A", "a.py:B", .inherits⟩] ∧
    (ofOutcomes derivedClassOutcomes).1.edges = (ofOutcomes derivedClassOutcomes).1.relationships := by
  have horigin : ∀ o ∈ derivedClassOutcomes, ∀ x strategy, o.result = some (x, strategy) →
      ByGrammar directGrammars o.path x ∨ ByPatterns o.path x := by
    intro o ho x strategy hresult
    simp only [derivedClassOutcomes, List.mem_cons, List.not_mem_nil, or_false] at ho
    rcases ho with rfl | rfl | rfl
    · cases hresult
      exact Or.inl ⟨Language.python, List.mem_cons_self, _, _, _, rfl⟩
    · cases hresult
      exact Or.inr ⟨_, _, rfl⟩
    · cases hresult
  refine ⟨horigin, ?_, (edges_eq_relationships derivedClassOutcomes horigin).1⟩
  rw [ofOutcomes_graph, finish, CodeGraph.ofRelationships_relationships, ofPushes_relationships]
  decide +kernel

end CodeAtlas.Build
