/-
What the view of a graph shows.

`CodeGraph.ofRelationships` goes through the relationships once.  It leaves out
those that have an end which is no element, and files the others under both of
their ends.  `Shows` is what is true while it goes: the edges are the relationships
seen so far with both ends among the elements, and what is filed under an
identifier, at either end, is what an inspection of the edges would find there.
Where edges lead and where they come from is the same argument twice, so it is made
once, for an index by one end of the edges, `Neighbours.Indexes`.
-/
import CodeAtlas.Graph.Basic
import CodeAtlas.Proofs.Lists

namespace CodeAtlas.Graph

/-- Whether both ends of a relationship are elements. -/
def ElementMap.links (elements : ElementMap) (r : Relationship) : Bool :=
  elements.contains r.source && elements.contains r.target

theorem Neighbours.getD_add (n : Neighbours) (id other i : String) (kind : RelationshipKind) :
    (n.add id other kind).getD i [] = n.getD i [] ++ if id = i then [(other, kind)] else [] := by
  unfold Neighbours.add
  rw [Std.HashMap.getD_insert]
  by_cases h : id = i
  · subst h
    simp
  · simp [h]

/-- What is filed under an identifier are the edges with this identifier at the end `here`, in order, each by its end
`there` and its kind. -/
def Neighbours.Indexes (n : Neighbours) (here there : Relationship → String) (edges : List Relationship) : Prop :=
  ∀ id, n.getD id [] = (edges.filter (here · == id)).map fun r => (there r, r.kind)

section

variable {n : Neighbours} {here there : Relationship → String} {edges : List Relationship}

theorem Neighbours.Indexes.add (h : n.Indexes here there edges) (r : Relationship) :
    (n.add (here r) (there r) r.kind).Indexes here there (edges ++ [r]) := by
  intro id
  rw [Neighbours.getD_add, h, List.filter_append, List.map_append]
  congr 1
  by_cases hr : here r = id
  · simp [hr]
  · simp [hr]

theorem Neighbours.Indexes.along_eq (h : n.Indexes here there edges) (id : String) (kind : RelationshipKind) :
    n.along id kind = (edges.filter fun r => here r == id && r.kind == kind).map there := by
  unfold Neighbours.along
  rw [h, List.filter_map, List.map_map, List.filter_filter]
  simp only [Function.comp_def, Bool.and_comm]

/-- The same is found by going through the edges from the newest one to the oldest, if what was found is then sorted by
the places of the edges. -/
theorem Neighbours.Indexes.along_eq_mergeSort (h : n.Indexes here there edges) (id : String) (kind : RelationshipKind) :
    n.along id kind = (((edges.zipIdx.reverse.filter fun q => here q.1 == id).filter fun q => q.1.kind == kind).mergeSort
      fun a b => a.2 ≤ b.2).map fun q => there q.1 := by
  rw [List.filter_filter, Lists.mergeSort_filter_reverse_zipIdx, h.along_eq]
  conv => lhs; rw [← List.zipIdx_map_fst 0 edges]
  rw [List.filter_map, List.map_map]
  simp only [Function.comp_def, Bool.and_comm]

/-- An identifier is filed under another one as often as there are edges between the two. -/
theorem Neighbours.Indexes.count_along (h : n.Indexes here there edges) (id other : String) (kind : RelationshipKind) :
    (n.along id kind).count other = edges.countP fun r => here r == id && there r == other && r.kind == kind := by
  rw [h.along_eq, List.count_eq_countP, List.countP_map, List.countP_filter]
  refine List.countP_congr fun r _ => ?_
  simp only [Function.comp_apply, Bool.and_eq_true]
  exact ⟨fun ⟨hother, hid, hkind⟩ => ⟨⟨hid, hother⟩, hkind⟩, fun ⟨⟨hid, hother⟩, hkind⟩ => ⟨hother, hid, hkind⟩⟩

end

namespace CodeGraph

/-- The view of the relationships `found`, and the neighbours that follow from it. -/
structure Shows (elements : ElementMap) (found : List Relationship) (g : CodeGraph) : Prop where
  edges : g.edges = found.filter elements.links
  successors : g.successors.Indexes Relationship.source Relationship.target g.edges
  predecessors : g.predecessors.Indexes Relationship.target Relationship.source g.edges

theorem step_shows {elements : ElementMap} {found : List Relationship} {g : CodeGraph}
    (h : Shows elements found g) (r : Relationship) :
    Shows elements (found ++ [r]) (if elements.links r then g.addEdge r else g) := by
  by_cases hr : elements.links r = true
  · rw [if_pos hr]
    refine ⟨?_, h.successors.add r, h.predecessors.add r⟩
    show g.edges ++ [r] = _
    rw [h.edges, List.filter_append, List.filter_cons_of_pos hr, List.filter_nil]
  · rw [if_neg hr]
    refine ⟨?_, h.successors, h.predecessors⟩
    rw [h.edges, List.filter_append, List.filter_cons_of_neg hr, List.filter_nil, List.append_nil]

theorem fold_shows {elements : ElementMap} : ∀ (rs : List Relationship) {found : List Relationship}
    {g : CodeGraph}, Shows elements found g →
      Shows elements (found ++ rs)
        (rs.foldl (fun g r => if elements.links r then g.addEdge r else g) g) := by
  intro rs
  induction rs with
  | nil => intro found g h; simpa using h
  | cons r rest ih =>
      intro found g h
      rw [List.foldl_cons, List.append_cons]
      exact ih (step_shows h r)

theorem ofRelationships_shows (elements : ElementMap) (rs : List Relationship) :
    Shows elements rs (ofRelationships elements rs) := by
  have hempty : Shows elements [] ⟨elements, rs, [], ∅, ∅⟩ :=
    ⟨rfl, fun id => by simp, fun id => by simp⟩
  have hfold := fold_shows rs hempty
  rw [List.nil_append] at hfold
  exact hfold

/-- **The edges of the view are the relationships between elements**, in the same order and as often. -/
theorem ofRelationships_edges (elements : ElementMap) (rs : List Relationship) :
    (ofRelationships elements rs).edges = rs.filter elements.links :=
  (ofRelationships_shows elements rs).edges

theorem foldl_frame {f : Relationship → Bool} : ∀ (rs : List Relationship) (g : CodeGraph),
    (rs.foldl (fun g r => if f r then g.addEdge r else g) g).elements = g.elements ∧
      (rs.foldl (fun g r => if f r then g.addEdge r else g) g).relationships = g.relationships := by
  intro rs
  induction rs with
  | nil => intro g; exact ⟨rfl, rfl⟩
  | cons r rest ih =>
      intro g
      rw [List.foldl_cons]
      by_cases hr : f r = true
      · rw [if_pos hr]
        exact ih (g.addEdge r)
      · rw [if_neg hr]
        exact ih g

@[simp] theorem ofRelationships_elements (elements : ElementMap) (rs : List Relationship) :
    (ofRelationships elements rs).elements = elements :=
  (foldl_frame rs _).1

@[simp] theorem ofRelationships_relationships (elements : ElementMap) (rs : List Relationship) :
    (ofRelationships elements rs).relationships = rs :=
  (foldl_frame rs _).2

/-- Where the edges lead that leave an element is read off the edges, in their order. -/
theorem outgoing_eq (elements : ElementMap) (rs : List Relationship) (id : String) (kind : RelationshipKind) :
    (ofRelationships elements rs).outgoing id kind =
      ((ofRelationships elements rs).edges.filter fun r => r.source == id && r.kind == kind).map
        Relationship.target :=
  (ofRelationships_shows elements rs).successors.along_eq id kind

/-- And so is where the edges come from that arrive at it. -/
theorem incoming_eq (elements : ElementMap) (rs : List Relationship) (id : String) (kind : RelationshipKind) :
    (ofRelationships elements rs).incoming id kind =
      ((ofRelationships elements rs).edges.filter fun r => r.target == id && r.kind == kind).map
        Relationship.source :=
  (ofRelationships_shows elements rs).predecessors.along_eq id kind

theorem mem_outgoing_iff {elements : ElementMap} {rs : List Relationship} {id other : String}
    {kind : RelationshipKind} :
    other ∈ (ofRelationships elements rs).outgoing id kind ↔
      (⟨id, other, kind⟩ : Relationship) ∈ rs ∧
        elements.contains id = true ∧ elements.contains other = true := by
  rw [outgoing_eq, ofRelationships_edges]
  simp only [List.mem_map, List.mem_filter, ElementMap.links, Bool.and_eq_true, beq_iff_eq]
  constructor
  · rintro ⟨r, ⟨⟨hr, hends⟩, hid, hkind⟩, hother⟩
    subst hid hkind hother
    exact ⟨hr, hends⟩
  · rintro ⟨hr, hends⟩
    exact ⟨⟨id, other, kind⟩, ⟨⟨hr, hends⟩, rfl, rfl⟩, rfl⟩

end CodeGraph
end CodeAtlas.Graph
