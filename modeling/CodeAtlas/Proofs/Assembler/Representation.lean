/-
What is true of an assembler whatever was added to it.

Elements are stored under their own identifiers, and every identifier stands in the
index once.  Neither is plain from the code: an element may be replaced by one with
another name, kind or parent, and a reference is resolved to the identifier of the
element that is stored by then, not to the one under which it was found.  Both follow
from `Tracks`, since the list of all elements added so far says what is stored and
what is indexed.

Hence a reference never leads nowhere.  What it led to stays an element whatever is
added later, so that only its source decides whether the graph shows it as an edge.
-/
import CodeAtlas.Proofs.Assembler.Ends
import CodeAtlas.Proofs.Lists

namespace CodeAtlas.Graph

/-- The relationship that a reference stands for once its target is known. -/
def Reference.to (r : Reference) (e : Element) : Relationship :=
  ⟨r.source, e.id, r.kind⟩

namespace Assembler

/-! ### What a reference is found to lead to -/

/-- The element that a reference of the file `p` leads to when `p` is added after the files `before`.  It is looked up
as soon as the elements of `p` are there. -/
def found? (before : List (String × Extraction)) (p : String × Extraction) (r : Reference) : Option Element :=
  (p.2.elements.foldl addElement (ofPushes before)).resolve? p.1 r

/-- The relationships after one more file: its own ones, and those of its references that lead somewhere. -/
theorem ofPushes_append_relationships (before : List (String × Extraction)) (p : String × Extraction) :
    (ofPushes (before ++ [p])).relationships = (ofPushes before).relationships ++
      (p.2.relationships ++ p.2.references.filterMap fun r => (found? before p r).map r.to) := by
  rw [ofPushes_append, push_eq]
  rfl

theorem ofPushes_append_dropped (before : List (String × Extraction)) (p : String × Extraction) :
    (ofPushes (before ++ [p])).dropped = (ofPushes before).dropped +
      p.2.references.countP fun r => (found? before p r).isNone := by
  rw [ofPushes_append, push_eq]
  rfl

theorem found?_tracks (before : List (String × Extraction)) (p : String × Extraction) :
    Tracks (p.2.elements.foldl addElement (ofPushes before)) (declared (before ++ [p])) := by
  rw [declared_append, declared_singleton]
  exact foldl_addElement_tracks p.2.elements (ofPushes_tracks before)

/-- What was found is declared in the file itself or in one before it. -/
theorem found?_declared {before : List (String × Extraction)} {p : String × Extraction} {r : Reference} {e : Element}
    (h : found? before p r = some e) : e.id ∈ (declared (before ++ [p])).map Element.id := by
  have htarget : target? (declared (before ++ [p])) p.1 r = some e.id := by
    rw [← resolve?_eq_target? (found?_tracks before p), Option.map_eq_some_iff]
    exact ⟨e, h, rfl⟩
  exact target?_declared htarget

/-! ### Relationships stay -/

theorem relationships_stay {r : Relationship} (before : List (String × Extraction)) :
    ∀ after : List (String × Extraction), r ∈ (ofPushes before).relationships →
      r ∈ (ofPushes (before ++ after)).relationships := by
  intro after h
  induction after using List.reverseRecOn with
  | nil => simpa using h
  | append_singleton qs q ih =>
      rw [← List.append_assoc, ofPushes_append_relationships]
      exact List.mem_append_left _ ih

/-! ### The index -/

/-- All identifiers of the index, those of each name together. -/
def indexedIds (a : Assembler) : List String :=
  a.byName.toList.flatMap Prod.snd

theorem Tracks.mem_toList {a : Assembler} {known : List Element} (h : Tracks a known) {q : String × List String}
    (hq : q ∈ a.byName.toList) : q.2 = idsNamed known q.1 := by
  have hget : a.byName[q.1]? = some q.2 := Std.HashMap.mem_toList_iff_getElem?_eq_some.mp hq
  rw [← h.indexed, Std.HashMap.getD_eq_getD_getElem?, hget, Option.getD_some]

theorem nodup_idsNamed (known : List Element) (name : String) : (idsNamed known name).Nodup :=
  (Lists.nodup_eraseDups _).filter _

theorem name_of_mem_idsNamed {known : List Element} {name id : String} (h : id ∈ idsNamed known name) :
    (first? known id).map Element.name = some name := by
  obtain ⟨e, he, hname⟩ := (Option.any_eq_true _ _).mp (List.mem_filter.mp h).2
  rw [he, Option.map_some, beq_iff_eq.mp hname]

/-- An identifier is filed under the name that its first element has. -/
theorem mem_idsNamed_first {known : List Element} {id : String} (h : id ∈ known.map Element.id) :
    ∃ name, id ∈ idsNamed known name := by
  have hsome : (first? known id).isSome = true := by simpa [first?, List.find?_isSome] using h
  obtain ⟨e, he⟩ := Option.isSome_iff_exists.mp hsome
  refine ⟨e.name, List.mem_filter.mpr ⟨List.mem_eraseDups.mpr h, ?_⟩⟩
  rw [he]
  simp

theorem Tracks.mem_indexedIds {a : Assembler} {known : List Element} (h : Tracks a known) {id : String} :
    id ∈ a.indexedIds ↔ id ∈ known.map Element.id := by
  unfold indexedIds
  rw [List.mem_flatMap]
  constructor
  · rintro ⟨q, hq, hid⟩
    rw [h.mem_toList hq] at hid
    exact mem_idsNamed hid
  · intro hid
    obtain ⟨name, hname⟩ := mem_idsNamed_first hid
    rw [← h.indexed, Std.HashMap.getD_eq_getD_getElem?] at hname
    cases hget : a.byName[name]? with
    | none => simp [hget] at hname
    | some ids =>
        rw [hget, Option.getD_some] at hname
        exact ⟨(name, ids), Std.HashMap.mem_toList_iff_getElem?_eq_some.mpr hget, hname⟩

theorem Tracks.nodup_indexedIds {a : Assembler} {known : List Element} (h : Tracks a known) : a.indexedIds.Nodup := by
  unfold indexedIds List.Nodup
  rw [List.pairwise_flatMap]
  refine ⟨?_, ?_⟩
  · intro q hq
    rw [h.mem_toList hq]
    exact nodup_idsNamed known q.1
  · -- Two names have no identifier in common, because the first element of an identifier has one name only.
    refine List.Pairwise.imp_of_mem ?_ a.byName.distinct_keys_toList
    intro q q' hq hq' hne id hid id' hid' heq
    rw [h.mem_toList hq] at hid
    rw [h.mem_toList hq', ← heq] at hid'
    have hnames := (name_of_mem_idsNamed hid).symm.trans (name_of_mem_idsNamed hid')
    simp [Option.some.inj hnames] at hne

/-! ### The invariant -/

/-- An assembler that is in order: elements are stored under their own identifiers, and every identifier under which
one is stored is in the index once, and no other. -/
structure Consistent (a : Assembler) : Prop where
  keyed : ∀ (id : String) (e : Element), a.elements[id]? = some e → e.id = id
  indexedOnce : ∀ id, a.indexedIds.count id = if id ∈ a.elements then 1 else 0

theorem Tracks.consistent {a : Assembler} {known : List Element} (h : Tracks a known) : Consistent a := by
  refine ⟨?_, ?_⟩
  · intro id e he
    rw [h.stored] at he
    exact last?_id he
  · intro id
    have hmem : id ∈ a.indexedIds ↔ id ∈ a.elements := by
      rw [h.mem_indexedIds, ← h.contains, Std.TreeMap.contains_iff_mem]
    rw [h.nodup_indexedIds.count]
    simp [hmem]

/--
**Every assembler is in order, and no reference leads nowhere.**  Whatever files were
added, elements are stored under their own identifiers and each of these is in the
index exactly once.  Once a reference of a file has led to an element, however many
files are added after that, its relationship is there, its target is the identifier
of an element, and it is an edge of the graph exactly if its source is one too.
-/
theorem representation_invariant (pushes : List (String × Extraction)) :
    Consistent (ofPushes pushes) ∧
    ∀ before p after, pushes = before ++ p :: after → ∀ r ∈ p.2.references, ∀ e, found? before p r = some e →
      r.to e ∈ (ofPushes pushes).relationships ∧
      e.id ∈ (ofPushes pushes).elements ∧
      (r.to e ∈ (ofPushes pushes).finish.edges ↔ r.source ∈ (ofPushes pushes).elements) := by
  have htracks := ofPushes_tracks pushes
  refine ⟨htracks.consistent, ?_⟩
  intro before p after hsplit r hr e he
  have hpushes : pushes = (before ++ [p]) ++ after := by rw [hsplit, List.append_assoc, List.singleton_append]
  have hmade : r.to e ∈ (ofPushes (before ++ [p])).relationships := by
    rw [ofPushes_append_relationships]
    refine List.mem_append_right _ (List.mem_append_right _ (List.mem_filterMap.mpr ⟨r, hr, ?_⟩))
    rw [he, Option.map_some]
  have hstays : r.to e ∈ (ofPushes pushes).relationships := by
    rw [hpushes]
    exact relationships_stay _ after hmade
  have htarget : (ofPushes pushes).elements.contains e.id = true := by
    rw [htracks.contains, hpushes, declared_append, List.map_append]
    exact List.mem_append_left _ (found?_declared he)
  refine ⟨hstays, Std.TreeMap.contains_iff_mem.mp htarget, ?_⟩
  unfold finish
  rw [CodeGraph.ofRelationships_edges, List.mem_filter, ElementMap.links, ← Std.TreeMap.contains_iff_mem]
  show r.to e ∈ (ofPushes pushes).relationships ∧
    ((ofPushes pushes).elements.contains r.source && (ofPushes pushes).elements.contains e.id) = true ↔ _
  rw [htarget, Bool.and_true]
  exact ⟨And.right, fun hsource => ⟨hstays, hsource⟩⟩

/-- A file with a function that calls itself. -/
def recursiveFunction : String × Extraction :=
  ("a.py", ⟨[.bare "p:q" .function "a.py"], [], [⟨"a.py:p:q", "p:q", .calls, 1⟩]⟩)

/-- The function, and then a class of another name that takes its identifier. -/
def replacedFunction : List (String × Extraction) :=
  [recursiveFunction, ("a.py", ⟨[{ Element.bare "q" .classLike "a.py" with parent := some "a.py:p" }], [], []⟩)]

theorem edge_of_replaced_function :
    ((ofPushes replacedFunction).elements["a.py:p:q"]?).map Element.name = some "q" ∧
    (⟨"a.py:p:q", "a.py:p:q", .calls⟩ : Relationship) ∈ (ofPushes replacedFunction).finish.edges := by
  have hname : ((ofPushes replacedFunction).elements["a.py:p:q"]?).map Element.name = some "q" := by
    rw [(ofPushes_tracks _).stored]
    decide +kernel
  have htarget : (found? [] recursiveFunction ⟨"a.py:p:q", "p:q", .calls, 1⟩).map Element.id = some "a.py:p:q" := by
    unfold found?
    rw [resolve?_eq_target? (found?_tracks [] _)]
    decide +kernel
  obtain ⟨e, he, hid⟩ := Option.map_eq_some_iff.mp htarget
  obtain ⟨-, hkey, hedge⟩ := (representation_invariant replacedFunction).2 [] recursiveFunction _ rfl
    ⟨"a.py:p:q", "p:q", .calls, 1⟩ (by decide +kernel) e he
  rw [hid] at hkey
  rw [Reference.to, hid] at hedge
  exact ⟨hname, hedge.mpr hkey⟩

end Assembler
end CodeAtlas.Graph
