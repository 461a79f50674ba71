/-
What a graph answers.

A graph holds more relationships than edges: those with an end that is no element
are kept, but the view leaves them out.  `Answers` gathers what the questions about
the view say in terms of the relationships alone, in their order and as often as
they were found.

A question in words is about the relationships and not about the view.  Its answers
that begin at an element and end at one are the edges again.  Where they begin at
something that is no element, no edge stands for them, so there the two ways to ask
differ, `answersFrom_ne_outgoing`.
-/
import CodeAtlas.Graph.Decode
import CodeAtlas.Proofs.Graph.View
import CodeAtlas.Proofs.Text.ByteOrder

namespace CodeAtlas.Text

theorem occursIn_of_infix {word text : List Char} (h : word <:+: text) : occursIn word text = true := by
  obtain ⟨before, after, rfl⟩ := h
  induction before with
  | nil =>
      cases word with
      | nil =>
          cases after with
          | nil => rfl
          | cons c rest => rfl
      | cons c rest => simp [occursIn]
  | cons c before ih =>
      rw [List.cons_append, List.cons_append, occursIn, ih, Bool.or_true]

end CodeAtlas.Text

namespace CodeAtlas.Graph.CodeGraph

/-! ### Questions in words -/

/-- A text asks for calls if the word occurs in it, in letters of any size. -/
theorem askedKind?_of_calls {text : String} {word : List Char} (hword : word <:+: text.toList)
    (hcalls : word.map Text.lowerPlain = "calls".toList) : askedKind? text = some .calls := by
  have hinfix : "calls".toList <:+: (Text.lowercase text).toList := by
    rw [← hcalls, Text.lowercase, String.toList_ofList]
    exact hword.map Text.lowerPlain
  unfold askedKind?
  rw [if_pos (Text.occursIn_of_infix hinfix)]

/-- The answers to a question that begin at `x` and end at an element. -/
def answersFrom (g : CodeGraph) (question x : String) : List QueryMatch :=
  ((g.query question).map Relationship.toMatch).filter fun m => m.source == x && g.elements.contains m.target

theorem targets_answersFrom {g : CodeGraph} {question : String} {kind : RelationshipKind}
    (h : askedKind? question = some kind) (x : String) :
    (g.answersFrom question x).map QueryMatch.target =
      (g.relationships.filter fun r => g.elements.contains r.target && (r.source == x && r.kind == kind)).map
        Relationship.target := by
  unfold answersFrom query
  rw [h]
  simp only [ofKind]
  rw [List.filter_map, List.map_map, List.filter_filter]
  congr 1
  refine List.filter_congr fun r _ => ?_
  show (r.source == x && g.elements.contains r.target && r.kind == kind) = _
  cases g.elements.contains r.target <;> cases r.source == x <;> rfl

section

variable {elements : ElementMap} {rs : List Relationship} {x : String}

/-- What begins at an element and ends at one is an edge. -/
theorem targets_answersFrom_of_contains (hx : elements.contains x = true) {question : String}
    {kind : RelationshipKind} (h : askedKind? question = some kind) :
    ((ofRelationships elements rs).answersFrom question x).map QueryMatch.target =
      (ofRelationships elements rs).outgoing x kind := by
  rw [targets_answersFrom h, outgoing_eq, ofRelationships_edges, ofRelationships_relationships,
    ofRelationships_elements, List.filter_filter]
  congr 1
  refine List.filter_congr fun r _ => ?_
  unfold ElementMap.links
  by_cases hsource : r.source = x
  · rw [hsource, hx, Bool.true_and, Bool.and_comm]
  · rw [beq_false_of_ne hsource, Bool.false_and, Bool.false_and, Bool.and_false]

theorem outgoing_of_not_contains (hx : elements.contains x = false) (kind : RelationshipKind) :
    (ofRelationships elements rs).outgoing x kind = [] := by
  refine List.eq_nil_iff_forall_not_mem.mpr fun y hy => ?_
  rw [(mem_outgoing_iff.mp hy).2.1] at hx
  cases hx

end

/-! ### Both ends of an edge -/

theorem count_outgoing_eq_count_incoming (elements : ElementMap) (rs : List Relationship) (x y : String)
    (kind : RelationshipKind) : ((ofRelationships elements rs).outgoing x kind).count y =
      ((ofRelationships elements rs).incoming y kind).count x := by
  have hshows := ofRelationships_shows elements rs
  unfold outgoing incoming
  rw [hshows.successors.count_along, hshows.predecessors.count_along]
  refine List.countP_congr fun r _ => ?_
  rw [Bool.and_comm (r.source == x)]

/-! ### Nodes -/

theorem nodes_sorted (g : CodeGraph) : (g.nodes.map Text.bytes).Pairwise (· < ·) := by
  rw [List.pairwise_map]
  refine Std.TreeMap.ordered_keys.imp ?_
  intro a b hlt
  exact Text.bytes_lt_of_lt (compareOfLessAndEq_eq_lt.mp hlt)

theorem mem_nodes_iff {elements : ElementMap} {rs : List Relationship} {id : String} :
    id ∈ (ofRelationships elements rs).nodes ↔ elements.contains id = true := by
  unfold nodes
  rw [ofRelationships_elements, Std.TreeMap.mem_keys, Std.TreeMap.contains_iff_mem]

/-! ### All answers together -/

/-- What a graph answers is read off its relationships, as far as both of their ends are elements. -/
structure Answers (elements : ElementMap) (rs : List Relationship) (g : CodeGraph) : Prop where
  /-- The nodes are the identifiers of the elements, in the order of their bytes. -/
  nodes : (g.nodes.map Text.bytes).Pairwise (· < ·) ∧ ∀ id, id ∈ g.nodes ↔ elements.contains id = true
  /-- The edges are the relationships between elements, in the same order and equally often. -/
  edges : g.edges = rs.filter fun r => elements.contains r.source && elements.contains r.target
  outgoing : ∀ x kind, g.outgoing x kind =
    (g.edges.filter fun r => r.source == x && r.kind == kind).map Relationship.target
  incoming : ∀ x kind, g.incoming x kind =
    (g.edges.filter fun r => r.target == x && r.kind == kind).map Relationship.source
  counted : ∀ x y kind, (g.outgoing x kind).count y = (g.incoming y kind).count x
  /-- A question with the word for calls in it, in letters of any size, is answered by the edges of an element. -/
  asked : ∀ x question word, elements.contains x = true → word <:+: question.toList →
    word.map Text.lowerPlain = "calls".toList →
    (g.answersFrom question x).map QueryMatch.target = g.outgoing x .calls
  /-- No edge leaves what is no element. -/
  unknown : ∀ x kind, elements.contains x = false → g.outgoing x kind = []

/--
**The view is the part of the relationships that has both ends among the elements**,
for all elements and all relationships, and every question about it is answered from
that part.
-/
theorem ofRelationships_answers (elements : ElementMap) (rs : List Relationship) :
    Answers elements rs (ofRelationships elements rs) where
  nodes := ⟨nodes_sorted _, fun _ => mem_nodes_iff⟩
  edges := ofRelationships_edges elements rs
  outgoing := outgoing_eq elements rs
  incoming := incoming_eq elements rs
  counted := count_outgoing_eq_count_incoming elements rs
  asked _ _ _ hx hword hcalls := targets_answersFrom_of_contains hx (askedKind?_of_calls hword hcalls)
  unknown _ kind hx := outgoing_of_not_contains hx kind

/-- Two functions. -/
def workers : ElementMap :=
  .ofList [("b.py:work", Element.bare "work" .function "b.py"), ("a.py:run", Element.bare "run" .function "a.py")]

/-- Calls of which one is found twice, one is that of a function to itself, and two have an end that is no element. -/
def repeatedCalls : List Relationship := [
  ⟨"a.py:run", "b.py:work", .calls⟩,
  ⟨"a.py:run", "a.py:run", .calls⟩,
  ⟨"a.py:run", "c.py:gone", .calls⟩,
  ⟨"c.py:gone", "b.py:work", .calls⟩,
  ⟨"a.py:run", "b.py:work", .calls⟩]

theorem workers_contains (id : String) :
    workers.contains id = (id == "b.py:work" || id == "a.py:run") := by
  unfold workers
  rw [Std.TreeMap.contains_ofList, List.map_cons, List.map_cons, List.map_nil, List.contains_cons, List.contains_cons,
    List.contains_nil, Bool.or_false]

theorem answers_of_repeated_calls :
    workers.contains "a.py:run" = true ∧
    (ofRelationships workers repeatedCalls).outgoing "a.py:run" .calls = ["b.py:work", "a.py:run", "b.py:work"] ∧
    ((ofRelationships workers repeatedCalls).answersFrom "who CALLS whom" "a.py:run").map QueryMatch.target =
      ["b.py:work", "a.py:run", "b.py:work"] := by
  have hanswers := ofRelationships_answers workers repeatedCalls
  have hrun : workers.contains "a.py:run" = true := by rw [workers_contains]; decide
  have hout : (ofRelationships workers repeatedCalls).outgoing "a.py:run" .calls =
      ["b.py:work", "a.py:run", "b.py:work"] := by
    rw [hanswers.outgoing, hanswers.edges]
    simp only [workers_contains]
    decide
  refine ⟨hrun, hout, ?_⟩
  rw [hanswers.asked "a.py:run" "who CALLS whom" "CALLS".toList hrun ⟨"who ".toList, " whom".toList, by decide⟩
    (by decide), hout]

/-- **A question in words is answered by more than the edges** where something that is no element calls an element. -/
theorem answersFrom_ne_outgoing :
    ((ofRelationships workers repeatedCalls).answersFrom "calls" "c.py:gone").map QueryMatch.target =
      ["b.py:work"] ∧
    (ofRelationships workers repeatedCalls).outgoing "c.py:gone" .calls = [] := by
  have hcalls : askedKind? "calls" = some .calls := by decide
  refine ⟨?_, outgoing_of_not_contains (by rw [workers_contains]; decide) .calls⟩
  rw [targets_answersFrom hcalls, ofRelationships_relationships, ofRelationships_elements]
  simp only [workers_contains]
  decide

end CodeAtlas.Graph.CodeGraph
