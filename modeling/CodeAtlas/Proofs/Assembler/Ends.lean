/-
Where the relationships of an assembler come from, and where they end.

Read off the model, a relationship is either one of a file's own or that of a
reference which has found its target.  A target is always an identifier that was
declared, since the search goes through nothing else, and no reference ever leads
to a relationship of containment.  So containment is only what the files say of
themselves, and whether a relationship ends at an element is decided by the file it
comes from alone.
-/
import CodeAtlas.Proofs.Assembler.Reference
import CodeAtlas.Proofs.Graph.View

namespace CodeAtlas.Graph

/-- Both ends of every relationship of the extraction are among its elements, and so is the start of every
reference. -/
structure Extraction.Grounded (x : Extraction) : Prop where
  source : ∀ r ∈ x.relationships, r.source ∈ x.elements.map Element.id
  target : ∀ r ∈ x.relationships, r.target ∈ x.elements.map Element.id
  referring : ∀ r ∈ x.references, r.source ∈ x.elements.map Element.id

namespace Assembler

/-! ### What a reference leads to -/

theorem mem_idsNamed {known : List Element} {name id : String} (h : id ∈ idsNamed known name) :
    id ∈ known.map Element.id :=
  List.mem_eraseDups.mp (List.mem_filter.mp h).1

theorem target?_mem_eligible {known : List Element} {filePath : String} {r : Reference} {id : String}
    (h : target? known filePath r = some id) : id ∈ eligible known r := by
  rcases Option.or_eq_some_iff.mp h with hfile | ⟨-, hhead⟩
  · exact List.mem_of_find?_eq_some hfile
  · exact List.mem_of_head? hhead

theorem target?_declared {known : List Element} {filePath : String} {r : Reference} {id : String}
    (h : target? known filePath r = some id) : id ∈ known.map Element.id :=
  mem_idsNamed (List.mem_filter.mp (target?_mem_eligible h)).1

theorem target?_contains {known : List Element} {filePath : String} {r : Reference}
    (hr : r.kind = .contains) : target? known filePath r = none := by
  cases ht : target? known filePath r with
  | none => rfl
  | some id =>
      obtain ⟨e, -, he⟩ :=
        (Option.any_eq_true _ _).mp (List.mem_filter.mp (target?_mem_eligible ht)).2
      rw [hr] at he
      cases he

/-! ### Where a relationship comes from -/

theorem mem_contribution {known : List Element} {p : String × Extraction} {r : Relationship} :
    r ∈ contribution known p ↔ r ∈ p.2.relationships ∨
      ∃ q ∈ p.2.references, target? known p.1 q = some r.target ∧ q.source = r.source ∧ q.kind = r.kind := by
  unfold contribution
  rw [List.mem_append, List.mem_filterMap]
  constructor
  · rintro (h | ⟨q, hq, hr⟩)
    · exact Or.inl h
    · obtain ⟨id, hid, rfl⟩ := Option.map_eq_some_iff.mp hr
      exact Or.inr ⟨q, hq, hid, rfl, rfl⟩
  · rintro (h | ⟨q, hq, ht, hs, hk⟩)
    · exact Or.inl h
    · exact Or.inr ⟨q, hq, by rw [ht, Option.map_some, hs, hk]⟩

theorem mem_perPush {α : Type} {f : List Element → String × Extraction → α}
    {pushes : List (String × Extraction)} {y : α} :
    y ∈ perPush f pushes ↔ ∃ k p, pushes[k]? = some p ∧ f (declared (pushes.take (k + 1))) p = y := by
  unfold perPush
  rw [List.mem_map]
  constructor
  · rintro ⟨⟨p, k⟩, hq, hy⟩
    exact ⟨k, p, List.mem_zipIdx_iff_getElem?.mp hq, hy⟩
  · rintro ⟨k, p, hk, hy⟩
    exact ⟨(p, k), List.mem_zipIdx_iff_getElem?.mpr hk, hy⟩

theorem mem_ofPushes_relationships {pushes : List (String × Extraction)} {r : Relationship} :
    r ∈ (ofPushes pushes).relationships ↔
      ∃ k p, pushes[k]? = some p ∧ r ∈ contribution (declared (pushes.take (k + 1))) p := by
  rw [ofPushes_relationships, List.mem_flatten]
  constructor
  · rintro ⟨rs, hrs, hr⟩
    obtain ⟨k, p, hk, rfl⟩ := mem_perPush.mp hrs
    exact ⟨k, p, hk, hr⟩
  · rintro ⟨k, p, hk, hr⟩
    exact ⟨_, mem_perPush.mpr ⟨k, p, hk, rfl⟩, hr⟩

/-- **Containment is what the files say of themselves.** -/
theorem contains_mem_ofPushes {pushes : List (String × Extraction)} {p c : String} :
    (⟨p, c, .contains⟩ : Relationship) ∈ (ofPushes pushes).relationships ↔
      ∃ q ∈ pushes, (⟨p, c, .contains⟩ : Relationship) ∈ q.2.relationships := by
  rw [mem_ofPushes_relationships]
  constructor
  · rintro ⟨k, q, hk, hr⟩
    rcases mem_contribution.mp hr with h | ⟨ref, -, ht, -, hkind⟩
    · exact ⟨q, List.mem_of_getElem? hk, h⟩
    · rw [target?_contains hkind] at ht
      cases ht
  · rintro ⟨q, hq, hr⟩
    obtain ⟨k, hk⟩ := List.mem_iff_getElem?.mp hq
    exact ⟨k, q, hk, mem_contribution.mpr (Or.inl hr)⟩

/-! ### Where a relationship ends -/

theorem mem_declared {pushes : List (String × Extraction)} {e : Element} :
    e ∈ declared pushes ↔ ∃ p ∈ pushes, e ∈ p.2.elements :=
  List.mem_flatMap

theorem declared_ids_of_mem {pushes : List (String × Extraction)} {p : String × Extraction} (hp : p ∈ pushes)
    {id : String} (h : id ∈ p.2.elements.map Element.id) : id ∈ (declared pushes).map Element.id := by
  obtain ⟨e, he, rfl⟩ := List.mem_map.mp h
  exact List.mem_map.mpr ⟨e, mem_declared.mpr ⟨p, hp, he⟩, rfl⟩

theorem declared_ids_of_take {pushes : List (String × Extraction)} {k : Nat} {id : String}
    (h : id ∈ (declared (pushes.take k)).map Element.id) : id ∈ (declared pushes).map Element.id := by
  obtain ⟨e, he, rfl⟩ := List.mem_map.mp h
  obtain ⟨p, hp, hep⟩ := mem_declared.mp he
  exact List.mem_map.mpr ⟨e, mem_declared.mpr ⟨p, List.mem_of_mem_take hp, hep⟩, rfl⟩

theorem ends_declared {pushes : List (String × Extraction)} (h : ∀ p ∈ pushes, p.2.Grounded)
    {r : Relationship} (hr : r ∈ (ofPushes pushes).relationships) :
    r.source ∈ (declared pushes).map Element.id ∧ r.target ∈ (declared pushes).map Element.id := by
  obtain ⟨k, p, hk, hr⟩ := mem_ofPushes_relationships.mp hr
  have hp : p ∈ pushes := List.mem_of_getElem? hk
  rcases mem_contribution.mp hr with hlocal | ⟨q, hq, ht, hs, -⟩
  · exact ⟨declared_ids_of_mem hp ((h p hp).source r hlocal), declared_ids_of_mem hp ((h p hp).target r hlocal)⟩
  · rw [← hs]
    exact ⟨declared_ids_of_mem hp ((h p hp).referring q hq), declared_ids_of_take (target?_declared ht)⟩

/-- **Files that are grounded make a graph that is.**  All its relationships begin and end at its elements. -/
theorem finish_ends_of_grounded {pushes : List (String × Extraction)} (h : ∀ p ∈ pushes, p.2.Grounded) :
    ∀ r ∈ (ofPushes pushes).finish.relationships,
      r.source ∈ (ofPushes pushes).finish.elements ∧ r.target ∈ (ofPushes pushes).finish.elements := by
  unfold finish
  rw [CodeGraph.ofRelationships_relationships, CodeGraph.ofRelationships_elements]
  intro r hr
  obtain ⟨hsource, htarget⟩ := ends_declared h hr
  have htracks := ofPushes_tracks pushes
  rw [← Std.TreeMap.contains_iff_mem, ← Std.TreeMap.contains_iff_mem]
  exact ⟨(htracks.contains _).mpr hsource, (htracks.contains _).mpr htarget⟩

/-- Relationships between elements are all edges of the view. -/
theorem finish_edges_of_ends {a : Assembler}
    (h : ∀ r ∈ a.finish.relationships, r.source ∈ a.finish.elements ∧ r.target ∈ a.finish.elements) :
    a.finish.edges = a.finish.relationships := by
  unfold finish at h ⊢
  rw [CodeGraph.ofRelationships_relationships, CodeGraph.ofRelationships_elements] at h
  rw [CodeGraph.ofRelationships_edges, CodeGraph.ofRelationships_relationships, List.filter_eq_self]
  intro r hr
  rw [ElementMap.links, Bool.and_eq_true, Std.TreeMap.contains_iff_mem, Std.TreeMap.contains_iff_mem]
  exact h r hr

end Assembler
end CodeAtlas.Graph
