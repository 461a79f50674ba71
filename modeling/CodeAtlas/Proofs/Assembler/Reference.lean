/-
The assembler against a model without an index.

`Assembler.push` answers every reference from `byName`, an index that is extended
only when an identifier is new, while the elements themselves are replaced again
and again.  So the index may file an identifier under a name that the element now
stored there no longer has, and the order of its lists is that of the first
declarations and not of the last.

The model here keeps nothing but the list of all elements that were ever added.
The element stored under an identifier is the last one of the list that has it,
and the identifiers of a name are found by going through the list from its start.
`Tracks` says that an assembler agrees with such a list.  Adding an element keeps
it, `addElement_tracks`, and under it looking up a reference in the index gives
the same target as searching the list, `resolve?_eq_target?`.
-/
import CodeAtlas.Graph.Assembler
import Mathlib.Data.List.Induction

namespace CodeAtlas.Graph.Assembler

/-- What is put together by adding the files one after the other, each with its path. -/
def ofPushes (pushes : List (String × Extraction)) : Assembler :=
  pushes.foldl (fun a p => a.push p.1 p.2) empty

@[simp] theorem ofPushes_append (pushes : List (String × Extraction)) (p : String × Extraction) :
    ofPushes (pushes ++ [p]) = (ofPushes pushes).push p.1 p.2 := by
  simp [ofPushes]

/-! ### The model

Everything is said of the list `known` of all elements added so far, in order.
-/

/-- All elements of some files, in order. -/
def declared (pushes : List (String × Extraction)) : List Element :=
  pushes.flatMap (·.2.elements)

/-- The first element with an identifier. -/
def first? (known : List Element) (id : String) : Option Element :=
  known.find? (·.id == id)

/-- The last element with an identifier. -/
def last? (known : List Element) (id : String) : Option Element :=
  known.reverse.find? (·.id == id)

/-- The identifiers whose first element has the given name, in the order of their first elements. -/
def idsNamed (known : List Element) (name : String) : List String :=
  (known.map Element.id).eraseDups.filter fun id => (first? known id).any (·.name == name)

/-- Whether a reference of the given kind can lead to an element: a call to a function, a type to a type. -/
def fits : RelationshipKind → Element → Bool
  | .calls, e => e.kind == .function
  | .inherits, e | .implements, e => e.kind == .classLike
  | .contains, _ => false

/-- The identifiers of the right name under which an element of the right kind is stored. -/
def eligible (known : List Element) (r : Reference) : List String :=
  (idsNamed known r.name).filter fun id => (last? known id).any (fits r.kind)

/-- The identifier that a reference in the given file leads to: the first eligible one of the same file, or else
the first eligible one of all. -/
def target? (known : List Element) (filePath : String) (r : Reference) : Option String :=
  ((eligible known r).find? fun id => (last? known id).any (·.filePath == filePath)).or
    (eligible known r).head?

/-- The relationships that a file adds, its own ones and those of its references. -/
def contribution (known : List Element) (p : String × Extraction) : List Relationship :=
  p.2.relationships ++
    p.2.references.filterMap fun r => (target? known p.1 r).map fun id => ⟨r.source, id, r.kind⟩

/-- The references of a file that lead nowhere. -/
def unresolved (known : List Element) (p : String × Extraction) : List Reference :=
  p.2.references.filter fun r => (target? known p.1 r).isNone

/-! ### How the model grows by one element -/

theorem last?_append (known : List Element) (e : Element) (id : String) :
    last? (known ++ [e]) id = if e.id = id then some e else last? known id := by
  unfold last?
  rw [List.reverse_append, List.reverse_singleton, List.singleton_append, List.find?_cons]
  by_cases h : e.id = id
  · simp [h]
  · rw [beq_false_of_ne h, if_neg h]

theorem last?_id {known : List Element} {id : String} {e : Element} (h : last? known id = some e) :
    e.id = id := by
  simpa using List.find?_some h

theorem isSome_last?_iff {known : List Element} {id : String} :
    (last? known id).isSome = true ↔ id ∈ known.map Element.id := by
  simp [last?, List.find?_isSome]

theorem last?_append_list (xs ys : List Element) (id : String) :
    last? (xs ++ ys) id = (last? ys id).or (last? xs id) := by
  unfold last?
  rw [List.reverse_append, List.find?_append]

theorem last?_eq_none {known : List Element} {id : String} (h : id ∉ known.map Element.id) :
    last? known id = none := by
  rw [← isSome_last?_iff] at h
  simpa using h

theorem first?_append_list (xs ys : List Element) (id : String) :
    first? (xs ++ ys) id = (first? xs id).or (first? ys id) :=
  List.find?_append

theorem first?_eq_none {known : List Element} {id : String} (h : id ∉ known.map Element.id) :
    first? known id = none := by
  unfold first?
  rw [List.find?_eq_none]
  intro d hd hid
  exact h (List.mem_map.mpr ⟨d, hd, by simpa using hid⟩)

theorem first?_append_of_mem {known : List Element} {id : String} (e : Element)
    (h : id ∈ known.map Element.id) : first? (known ++ [e]) id = first? known id := by
  have hsome : (known.find? (·.id == id)).isSome = true := by simpa [List.find?_isSome] using h
  obtain ⟨d, hd⟩ := Option.isSome_iff_exists.mp hsome
  unfold first?
  rw [List.find?_append, hd, Option.some_or]

theorem first?_append_of_not_mem {known : List Element} (e : Element)
    (h : e.id ∉ known.map Element.id) : first? (known ++ [e]) e.id = some e := by
  rw [first?_append_list, first?_eq_none h, Option.none_or]
  simp [first?]

/-- Identifiers that were there before keep the name they were filed under. -/
theorem filter_first?_append (known : List Element) (e : Element) (name : String) :
    ((known.map Element.id).eraseDups.filter fun id => (first? (known ++ [e]) id).any (·.name == name))
      = idsNamed known name := by
  refine List.filter_congr fun id hid => ?_
  rw [first?_append_of_mem e (List.mem_eraseDups.mp hid)]

theorem idsNamed_append_of_mem {known : List Element} (e : Element) (name : String)
    (h : e.id ∈ known.map Element.id) : idsNamed (known ++ [e]) name = idsNamed known name := by
  have hnew : [e.id].removeAll (known.map Element.id) = [] := by
    simpa [List.removeAll] using h
  unfold idsNamed
  rw [List.map_append, List.map_singleton, List.eraseDups_append, hnew, List.eraseDups_nil,
    List.append_nil]
  exact filter_first?_append known e name

theorem idsNamed_append_of_not_mem {known : List Element} (e : Element) (name : String)
    (h : e.id ∉ known.map Element.id) :
    idsNamed (known ++ [e]) name = idsNamed known name ++ if e.name = name then [e.id] else [] := by
  have hnew : [e.id].removeAll (known.map Element.id) = [e.id] := by
    simpa [List.removeAll] using h
  unfold idsNamed
  rw [List.map_append, List.map_singleton, List.eraseDups_append, hnew, List.filter_append,
    filter_first?_append known e name]
  congr 1
  by_cases hn : e.name = name
  · simp [List.eraseDups_cons, first?_append_of_not_mem e h, hn]
  · simp [List.eraseDups_cons, first?_append_of_not_mem e h, hn]

/-! ### An assembler that agrees with the model -/

/-- The assembler stores and indexes exactly the elements of the list `known`. -/
structure Tracks (a : Assembler) (known : List Element) : Prop where
  stored : ∀ id, a.elements[id]? = last? known id
  indexed : ∀ name, a.byName.getD name [] = idsNamed known name

theorem tracks_empty : Tracks empty [] := by
  refine ⟨fun id => ?_, fun name => ?_⟩
  · simp [empty, last?]
  · simp [empty, idsNamed]

theorem Tracks.contains {a : Assembler} {known : List Element} (h : Tracks a known) (id : String) :
    a.elements.contains id = true ↔ id ∈ known.map Element.id := by
  rw [Std.TreeMap.contains_eq_isSome_getElem?, h.stored]
  exact isSome_last?_iff

theorem addElement_tracks {a : Assembler} {known : List Element} (h : Tracks a known) (e : Element) :
    Tracks (a.addElement e) (known ++ [e]) := by
  refine ⟨fun id => ?_, fun name => ?_⟩
  · show (a.elements.insert e.id e)[id]? = _
    rw [Std.TreeMap.getElem?_insert, last?_append, h.stored]
    simp
  · show (if a.elements.contains e.id then a.byName
        else a.byName.insert e.name (a.byName.getD e.name [] ++ [e.id])).getD name [] = _
    by_cases hc : a.elements.contains e.id = true
    · rw [if_pos hc, idsNamed_append_of_mem e name ((h.contains _).mp hc)]
      exact h.indexed name
    · rw [if_neg hc, idsNamed_append_of_not_mem e name (fun hm => hc ((h.contains _).mpr hm)),
        Std.HashMap.getD_insert]
      by_cases hn : e.name = name
      · subst hn
        simp [h.indexed]
      · simp [hn, h.indexed]

theorem foldl_addElement_tracks : ∀ (es : List Element) {a : Assembler} {known : List Element},
    Tracks a known → Tracks (es.foldl addElement a) (known ++ es) := by
  intro es
  induction es with
  | nil => intro a known h; simpa using h
  | cons e rest ih =>
      intro a known h
      rw [List.foldl_cons, List.append_cons]
      exact ih (addElement_tracks h e)

/-! ### The index answers as the model does

The assembler turns identifiers into elements first and then looks at kinds and
files.  The model keeps the identifiers and looks through them.  Both orders agree
since an element is stored under its own identifier.
-/

theorem fits_iff (k : RelationshipKind) (e : Element) :
    fits k e = true ↔ k.targetKind? = some e.kind := by
  cases k <;> simp [fits, RelationshipKind.targetKind?, eq_comm (a := e.kind)]

theorem candidates_eq {a : Assembler} {known : List Element} (h : Tracks a known) (r : Reference) :
    a.candidates r = (eligible known r).filterMap (last? known) := by
  have hlook : (a.elements[·]?) = last? known := funext h.stored
  unfold candidates eligible
  rw [h.indexed, hlook]
  cases hk : r.kind.targetKind? with
  | none =>
      have hnone : ∀ id ∈ idsNamed known r.name, ¬ (last? known id).any (fits r.kind) = true := by
        intro id _ hfits
        obtain ⟨e, -, he⟩ := (Option.any_eq_true _ _).mp hfits
        rw [fits_iff, hk] at he
        cases he
      rw [List.filter_eq_nil_iff.mpr hnone, List.filterMap_nil]
  | some kind =>
      have hfits : fits r.kind = (·.kind == kind) := by
        funext e
        rw [Bool.eq_iff_iff, fits_iff, hk, Option.some.injEq, beq_iff_eq]
        exact eq_comm
      show ((idsNamed known r.name).filterMap (last? known)).filter (·.kind == kind) = _
      rw [hfits, List.filter_filterMap, List.filterMap_filter]
      congr 1
      funext id
      cases last? known id with
      | none => rfl
      | some e => simp [Option.filter]

/-- **Looking a reference up in the index finds what searching the list finds.** -/
theorem resolve?_eq_target? {a : Assembler} {known : List Element} (h : Tracks a known)
    (filePath : String) (r : Reference) :
    (a.resolve? filePath r).map Element.id = target? known filePath r := by
  have hid : ∀ (ids : List String) (p : Element → Bool),
      ((ids.filterMap (last? known)).find? p).map Element.id
        = ids.find? fun id => (last? known id).any p := by
    intro ids p
    rw [List.find?_filterMap]
    cases hf : ids.find? fun id => (last? known id).any p with
    | none => rfl
    | some id =>
        have hany : (last? known id).any p = true :=
          List.find?_some (p := fun id => (last? known id).any p) hf
        obtain ⟨e, he, -⟩ := (Option.any_eq_true _ _).mp hany
        simp [he, last?_id he]
  have hhead : ((eligible known r).filterMap (last? known)).head?.map Element.id
      = (eligible known r).head? := by
    cases hl : eligible known r with
    | nil => rfl
    | cons id rest =>
        have hmem : id ∈ eligible known r := by rw [hl]; exact List.mem_cons_self
        obtain ⟨e, he, -⟩ := (Option.any_eq_true _ _).mp (List.mem_filter.mp hmem).2
        simp [he, last?_id he]
  unfold resolve? target?
  rw [candidates_eq h, ← hid, ← hhead]
  simp only []
  cases ((eligible known r).filterMap (last? known)).find? (·.filePath == filePath) with
  | none => rfl
  | some e => rfl

/-! ### What one file adds -/

theorem foldl_addElement_relationships : ∀ (es : List Element) (a : Assembler),
    (es.foldl addElement a).relationships = a.relationships := by
  intro es
  induction es with
  | nil => intro a; rfl
  | cons e rest ih => intro a; exact ih (a.addElement e)

theorem foldl_addElement_dropped : ∀ (es : List Element) (a : Assembler),
    (es.foldl addElement a).dropped = a.dropped := by
  intro es
  induction es with
  | nil => intro a; rfl
  | cons e rest ih => intro a; exact ih (a.addElement e)

/-- References change neither the elements nor the index, so each of them is looked up in the same state. -/
theorem foldl_addReference (filePath : String) : ∀ (rs : List Reference) (a : Assembler),
    rs.foldl (addReference filePath) a =
      { a with
        relationships := a.relationships ++
          rs.filterMap fun r => (a.resolve? filePath r).map fun e => ⟨r.source, e.id, r.kind⟩
        dropped := a.dropped + rs.countP fun r => (a.resolve? filePath r).isNone } := by
  intro rs
  induction rs with
  | nil => intro a; simp
  | cons r rest ih =>
      intro a
      rw [List.foldl_cons, ih]
      cases hr : a.resolve? filePath r with
      | none =>
          have hstep : addReference filePath a r = { a with dropped := a.dropped + 1 } := by
            rw [addReference, hr]
          rw [hstep, List.filterMap_cons_none (by rw [hr]; rfl), List.countP_cons_of_pos (by simp [hr])]
          show Assembler.mk _ _ _ _ = Assembler.mk _ _ _ _
          congr 1
          show a.dropped + 1 + rest.countP (fun r => (a.resolve? filePath r).isNone) = _
          omega
      | some e =>
          have hstep : addReference filePath a r =
              { a with relationships := a.relationships ++ [⟨r.source, e.id, r.kind⟩] } := by
            rw [addReference, hr]
          rw [hstep, List.filterMap_cons_some (by rw [hr]; rfl), List.countP_cons_of_neg (by simp [hr])]
          show Assembler.mk _ _ _ _ = Assembler.mk _ _ _ _
          congr 1
          show (a.relationships ++ [_]) ++ _ = _
          rw [List.append_assoc]
          rfl

/-- The state after a push, in terms of the state after its elements. -/
theorem push_eq (a : Assembler) (filePath : String) (x : Extraction) :
    a.push filePath x =
      let b := x.elements.foldl addElement a
      { b with
        relationships := a.relationships ++ (x.relationships ++
          x.references.filterMap fun r => (b.resolve? filePath r).map fun e => ⟨r.source, e.id, r.kind⟩)
        dropped := a.dropped + x.references.countP fun r => (b.resolve? filePath r).isNone } := by
  unfold push
  simp only []
  rw [foldl_addReference, ← List.append_assoc, ← foldl_addElement_relationships x.elements a,
    ← foldl_addElement_dropped x.elements a]
  rfl

theorem push_tracks {a : Assembler} {known : List Element} (h : Tracks a known) (filePath : String)
    (x : Extraction) : Tracks (a.push filePath x) (known ++ x.elements) := by
  have hb := foldl_addElement_tracks x.elements h
  rw [push_eq]
  exact ⟨hb.stored, hb.indexed⟩

theorem push_relationships {a : Assembler} {known : List Element} (h : Tracks a known)
    (p : String × Extraction) :
    (a.push p.1 p.2).relationships = a.relationships ++ contribution (known ++ p.2.elements) p := by
  have hb := foldl_addElement_tracks p.2.elements h
  rw [push_eq]
  show a.relationships ++ (p.2.relationships ++ p.2.references.filterMap _) = _
  unfold contribution
  congr 3
  funext r
  rw [← resolve?_eq_target? hb, Option.map_map]
  rfl

theorem push_dropped {a : Assembler} {known : List Element} (h : Tracks a known)
    (p : String × Extraction) :
    (a.push p.1 p.2).dropped = a.dropped + (unresolved (known ++ p.2.elements) p).length := by
  have hb := foldl_addElement_tracks p.2.elements h
  rw [push_eq]
  show a.dropped + p.2.references.countP _ = _
  unfold unresolved
  rw [← List.countP_eq_length_filter]
  congr 2
  funext r
  rw [← resolve?_eq_target? hb, Option.isNone_map]

/-! ### What a run of pushes gives -/

@[simp] theorem declared_append (ps qs : List (String × Extraction)) :
    declared (ps ++ qs) = declared ps ++ declared qs :=
  List.flatMap_append

@[simp] theorem declared_singleton (p : String × Extraction) : declared [p] = p.2.elements := by
  simp [declared]

theorem ofPushes_tracks (pushes : List (String × Extraction)) :
    Tracks (ofPushes pushes) (declared pushes) := by
  induction pushes using List.reverseRecOn with
  | nil => exact tracks_empty
  | append_singleton ps p ih =>
      rw [ofPushes_append, declared_append, declared_singleton]
      exact push_tracks ih p.1 p.2

/-- What every file of a run gives, each seen with all files up to itself. -/
def perPush {α : Type} (f : List Element → String × Extraction → α)
    (pushes : List (String × Extraction)) : List α :=
  pushes.zipIdx.map fun q => f (declared (pushes.take (q.2 + 1))) q.1

/-- Files that are added later do not change what a file gave. -/
theorem perPush_append {α : Type} (f : List Element → String × Extraction → α)
    (ps : List (String × Extraction)) (p : String × Extraction) :
    perPush f (ps ++ [p]) = perPush f ps ++ [f (declared ps ++ p.2.elements) p] := by
  unfold perPush
  rw [List.zipIdx_append, List.map_append]
  congr 1
  · refine List.map_congr_left fun q hq => ?_
    have hk : q.2 + 1 ≤ ps.length := by
      have := List.snd_lt_of_mem_zipIdx hq
      omega
    rw [List.take_append_of_le_length hk]
  · have hall : (ps ++ [p]).take (ps.length + 1) = ps ++ [p] := List.take_of_length_le (by simp)
    simp [hall]

theorem ofPushes_relationships (pushes : List (String × Extraction)) :
    (ofPushes pushes).relationships = (perPush contribution pushes).flatten := by
  induction pushes using List.reverseRecOn with
  | nil => rfl
  | append_singleton ps p ih =>
      rw [ofPushes_append, push_relationships (ofPushes_tracks ps), ih, perPush_append]
      simp

theorem ofPushes_dropped (pushes : List (String × Extraction)) :
    (ofPushes pushes).dropped = (perPush unresolved pushes).flatten.length := by
  induction pushes using List.reverseRecOn with
  | nil => rfl
  | append_singleton ps p ih =>
      rw [ofPushes_append, push_dropped (ofPushes_tracks ps), ih, perPush_append, List.flatten_append,
        List.length_append]
      simp

/--
**The assembler is its model without an index.**  Whatever files are added, with
whatever elements, relationships and references, the element stored under an
identifier is the last one added with it; the relationships are, file by file, the
file's own ones and then those of its references; a reference is looked up among
the elements of its file and of the files before it; and as many references are
dropped as there are for which the search through the list finds nothing.
-/
theorem ofPushes_eq_model (pushes : List (String × Extraction)) :
    (∀ id, (ofPushes pushes).elements[id]? = last? (declared pushes) id) ∧
      (ofPushes pushes).relationships = (perPush contribution pushes).flatten ∧
      (ofPushes pushes).dropped = (perPush unresolved pushes).flatten.length :=
  ⟨(ofPushes_tracks pushes).stored, ofPushes_relationships pushes, ofPushes_dropped pushes⟩

end CodeAtlas.Graph.Assembler
