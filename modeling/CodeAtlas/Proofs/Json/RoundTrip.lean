/-
What is written as JSON is read back, and what was read can be written.

For every kind of record there are two lemmas.  One says that a record whose numbers
have at most 64 bits comes back from its JSON form.  The other says that the numbers of
a record that was read have at most 64 bits, whatever form it was read from: fields
may be missing, have no value, be unknown or stand in any order.  `RoundTrips` puts
them together.

Only graphs need more.  Their elements are written in the order of their identifiers
and put into a new map when they are read.  It has the same entries, but it need not
be the same search tree, so graphs are compared by what their maps hold; `Same` graphs
have the same JSON form.
-/
import CodeAtlas.Build.Statistics
import CodeAtlas.Graph.Decode
import CodeAtlas.Proofs.Json.Tree

namespace CodeAtlas.Graph

open CodeAtlas.Json

/-! ### Elements -/

/-- The numbers of an element have at most 64 bits. -/
structure Element.Fits (e : Element) : Prop where
  lineStart : e.lineStart < UInt64.size
  lineEnd : e.lineEnd < UInt64.size
  columnStart : e.columnStart < UInt64.size
  columnEnd : e.columnEnd < UInt64.size

theorem Element.ofJson_toJson {e : Element} (h : e.Fits) : Element.ofJson e.toJson = .ok e := by
  unfold Element.ofJson Element.toJson
  rw [toFields_obj, ok_bind]
  simp only [field?_cons, field?_nil, String.reduceEq, ↓reduceIte, Option.or_self, Option.or_some, Option.or_none,
    Option.getD_none]
  simp only [required_some, toText, toWord_str (ElementKind.ofName?_name e.kind), toNat_nat h.lineStart,
    toNat_nat h.lineEnd, toNat_nat h.columnStart, toNat_nat h.columnEnd, optional_text, optional_texts, ok_bind]
  rfl

theorem Element.fits_of_ofJson {j : Json} {e : Element} (h : Element.ofJson j = .ok e) : e.Fits := by
  unfold Element.ofJson at h
  simp only [bind_eq_ok] at h
  obtain ⟨field, -, name, -, kind, -, filePath, -, lineStart, hlineStart, lineEnd, hlineEnd, columnStart, hcolumnStart,
    columnEnd, hcolumnEnd, docstring, -, parameters, -, returnType, -, parent, -, children, -, he⟩ := h
  cases he
  exact ⟨lt_of_required hlineStart, lt_of_required hlineEnd, lt_of_required hcolumnStart, lt_of_required hcolumnEnd⟩

/-! ### Relationships and answers -/

theorem Relationship.ofJson_toJson (r : Relationship) : Relationship.ofJson r.toJson = .ok r := by
  unfold Relationship.ofJson Relationship.toJson
  simp only [toText, ok_bind, RelationshipKind.ofName?_name]
  rfl

theorem QueryMatch.ofJson_toJson (m : QueryMatch) : QueryMatch.ofJson m.toJson = .ok m := by
  unfold QueryMatch.ofJson QueryMatch.toJson
  rw [toFields_obj, ok_bind]
  simp only [field?_cons, field?_nil, String.reduceEq, ↓reduceIte, Option.or_self, Option.or_some, Option.or_none,
    Option.getD_none]
  simp only [required_some, toText, ok_bind]
  rfl

end CodeAtlas.Graph

namespace CodeAtlas.Build

open CodeAtlas.Json

/-! ### Statistics of builds -/

/-- The numbers of the statistics have at most 64 bits. -/
structure Statistics.Fits (s : Statistics) : Prop where
  filesProcessed : s.filesProcessed < UInt64.size
  grammarParses : s.grammarParses < UInt64.size
  fallbackParses : s.fallbackParses < UInt64.size
  unreadableFiles : s.unreadableFiles < UInt64.size
  elements : s.elements < UInt64.size
  relationships : s.relationships < UInt64.size
  droppedReferences : s.droppedReferences < UInt64.size
  parseTimeMs : s.parseTimeMs < UInt64.size

theorem Statistics.ofJson_toJson {s : Statistics} (h : s.Fits) : Statistics.ofJson s.toJson = .ok s := by
  unfold Statistics.ofJson Statistics.toJson
  rw [toFields_obj, ok_bind]
  simp only [field?_cons, field?_nil, String.reduceEq, ↓reduceIte, Option.or_self, Option.or_some, Option.or_none,
    Option.getD_none]
  simp only [required_some, toNat_nat h.filesProcessed, toNat_nat h.grammarParses, toNat_nat h.fallbackParses,
    toNat_nat h.unreadableFiles, toNat_nat h.elements, toNat_nat h.relationships, toNat_nat h.droppedReferences,
    toNat_nat h.parseTimeMs, ok_bind]
  rfl

theorem Statistics.fits_of_ofJson {j : Json} {s : Statistics} (h : Statistics.ofJson j = .ok s) : s.Fits := by
  unfold Statistics.ofJson at h
  simp only [bind_eq_ok] at h
  obtain ⟨field, -, files, hfiles, grammar, hgrammar, fallback, hfallback, unreadable, hunreadable, elements, helements,
    relationships, hrelationships, dropped, hdropped, time, htime, hs⟩ := h
  cases hs
  exact ⟨lt_of_required hfiles, lt_of_required hgrammar, lt_of_required hfallback, lt_of_required hunreadable,
    lt_of_required helements, lt_of_required hrelationships, lt_of_required hdropped, lt_of_required htime⟩

end CodeAtlas.Build

namespace CodeAtlas.Graph

open CodeAtlas.Json

/-! ### Maps as lists of their entries -/

theorem mem_of_insertMany {α : Type} {k : String} {a : α} : ∀ {l : List (String × α)} {m : Std.TreeMap String α},
    (m.insertMany l)[k]? = some a → (k, a) ∈ l ∨ m[k]? = some a := by
  intro l
  induction l with
  | nil => intro m h; exact .inr h
  | cons q rest ih =>
      obtain ⟨key, b⟩ := q
      intro m h
      rw [Std.TreeMap.insertMany_cons] at h
      rcases ih h with hrest | hhere
      · exact .inl (List.mem_cons_of_mem _ hrest)
      · rw [Std.TreeMap.getElem?_insert] at hhere
        by_cases hkey : compare key k = .eq
        · rw [if_pos hkey] at hhere
          cases hhere
          obtain rfl := Std.LawfulEqCmp.compare_eq_iff_eq.mp hkey
          exact .inl List.mem_cons_self
        · rw [if_neg hkey] at hhere
          exact .inr hhere

theorem mem_of_ofList {α : Type} {k : String} {a : α} {l : List (String × α)}
    (h : (Std.TreeMap.ofList l)[k]? = some a) : (k, a) ∈ l := by
  rw [Std.TreeMap.ofList_eq_insertMany_empty] at h
  rcases mem_of_insertMany h with hmem | hempty
  · exact hmem
  · rw [Std.TreeMap.getElem?_emptyc] at hempty
    cases hempty

/-- A map made from the entries of another one has the same entries. -/
theorem getElem?_ofList_toList {α : Type} (m : Std.TreeMap String α) (k : String) :
    (Std.TreeMap.ofList m.toList)[k]? = m[k]? := by
  cases hk : m[k]? with
  | some a =>
      exact Std.TreeMap.getElem?_ofList_of_mem Std.ReflCmp.compare_self Std.TreeMap.distinct_keys_toList
        (Std.TreeMap.mem_toList_iff_getElem?_eq_some.mpr hk)
  | none =>
      cases hfound : (Std.TreeMap.ofList m.toList)[k]? with
      | none => rfl
      | some a =>
          have ha := Std.TreeMap.mem_toList_iff_getElem?_eq_some.mp (mem_of_ofList hfound)
          rw [hk] at ha
          cases ha

/-! ### Graphs -/

namespace GraphExport

/-- The numbers of all elements have at most 64 bits. -/
def Fits (x : GraphExport) : Prop :=
  ∀ (id : String) (e : Element), x.elements[id]? = some e → e.Fits

/-- The same elements under the same identifiers, and the same lists. -/
structure Same (x y : GraphExport) : Prop where
  elements : ∀ id : String, x.elements[id]? = y.elements[id]?
  relationships : x.relationships = y.relationships
  nodes : x.nodes = y.nodes
  edges : x.edges = y.edges

theorem Same.toJson_eq {x y : GraphExport} (h : x.Same y) : x.toJson = y.toJson := by
  have helements : x.elements.Equiv y.elements := Std.TreeMap.Equiv.of_forall_constGet?_eq h.elements
  unfold toJson
  rw [helements.toList_eq, h.relationships, h.nodes, h.edges]

theorem toPairs_elements {x : GraphExport} (h : x.Fits) :
    toPairs Element.ofJson (.obj (x.elements.toList.map fun (id, e) => (id, e.toJson))) = .ok x.elements.toList := by
  refine mapM_map ?_
  rintro ⟨id, e⟩ hmem
  have hfits : e.Fits := h id e (Std.TreeMap.mem_toList_iff_getElem?_eq_some.mp hmem)
  show (Element.ofJson e.toJson).map (id, ·) = _
  rw [Element.ofJson_toJson hfits]
  rfl

theorem toList_relationships (l : List Relationship) :
    Json.toList Relationship.ofJson (.arr (l.map Relationship.toJson)) = .ok l :=
  mapM_map fun r _ => Relationship.ofJson_toJson r

theorem ofJson_toJson {x : GraphExport} (h : x.Fits) : ∃ y, ofJson x.toJson = .ok y ∧ y.Same x := by
  refine ⟨⟨Std.TreeMap.ofList x.elements.toList, x.relationships, x.nodes, x.edges⟩, ?_,
    ⟨getElem?_ofList_toList x.elements, rfl, rfl, rfl⟩⟩
  unfold ofJson toJson
  rw [toFields_obj, ok_bind]
  simp only [field?_cons, field?_nil, String.reduceEq, ↓reduceIte, Option.or_self, Option.or_some, Option.or_none,
    Option.getD_none]
  rw [present_some (toPairs_elements h), present_some (toList_relationships x.edges),
    present_some (toList_strings x.nodes), present_some (toList_relationships x.relationships)]
  rfl

theorem fits_of_ofJson {j : Json} {x : GraphExport} (h : ofJson j = .ok x) : x.Fits := by
  unfold ofJson at h
  simp only [bind_eq_ok] at h
  obtain ⟨field, -, elements, helements, edges, -, nodes, -, relationships, -, pairs, hpairs,
    _, -, _, -, _, -, hx⟩ := h
  cases hx
  intro id e hget
  -- The element stands in the list that was read, so it was read by itself.
  rw [eq_some_of_need hpairs] at helements
  obtain ⟨value, hvalue⟩ := exists_of_present helements
  obtain ⟨item, hitem⟩ := exists_of_toPairs hvalue (mem_of_ofList hget)
  exact Element.fits_of_ofJson hitem

end GraphExport
end CodeAtlas.Graph

namespace CodeAtlas.Json

/-! ### All records -/

/-- What is written comes back, and what was read comes back once more after it was written; it is then written in the
same way. `Fits` says which values can be written, and `same` which are alike. -/
structure RoundTrips {α : Type} (encode : α → Json) (decode : Json → Decoded α) (Fits : α → Prop)
    (same : α → α → Prop) : Prop where
  written : ∀ a, Fits a → ∃ b, decode (encode a) = .ok b ∧ same b a
  fits : ∀ j a, decode j = .ok a → Fits a
  again : ∀ j a, decode j = .ok a → ∃ b, decode (encode a) = .ok b ∧ same b a ∧ encode b = encode a

section

variable {α : Type} {encode : α → Json} {decode : Json → Decoded α} {Fits : α → Prop} {same : α → α → Prop}

theorem RoundTrips.of_written (hwritten : ∀ a, Fits a → ∃ b, decode (encode a) = .ok b ∧ same b a)
    (hfits : ∀ j a, decode j = .ok a → Fits a) (hsame : ∀ a b, same b a → encode b = encode a) :
    RoundTrips encode decode Fits same where
  written := hwritten
  fits := hfits
  again j a h := by
    obtain ⟨b, hb, hba⟩ := hwritten a (hfits j a h)
    exact ⟨b, hb, hba, hsame a b hba⟩

theorem RoundTrips.of_eq (hwritten : ∀ a, Fits a → decode (encode a) = .ok a)
    (hfits : ∀ j a, decode j = .ok a → Fits a) : RoundTrips encode decode Fits Eq :=
  .of_written (fun a ha => ⟨a, hwritten a ha, rfl⟩) hfits fun _ _ h => congrArg encode h

end

open CodeAtlas.Graph CodeAtlas.Crawl

/-- **Every record is read back from its JSON form**: elements, relationships, trees of files, statistics of builds and
answers exactly, and graphs with the same elements, relationships, nodes and edges. Whatever a reader accepts can be
written and read again. -/
theorem records_round_trip :
    RoundTrips Element.toJson Element.ofJson Element.Fits Eq ∧
    RoundTrips Relationship.toJson Relationship.ofJson (fun _ => True) Eq ∧
    RoundTrips FileNode.toJson FileNode.ofJson FileNode.Fits Eq ∧
    RoundTrips Build.Statistics.toJson Build.Statistics.ofJson Build.Statistics.Fits Eq ∧
    RoundTrips QueryMatch.toJson QueryMatch.ofJson (fun _ => True) Eq ∧
    RoundTrips GraphExport.toJson GraphExport.ofJson GraphExport.Fits GraphExport.Same := by
  refine ⟨?element, ?relationship, ?tree, ?statistics, ?answer, ?graph⟩
  case element => exact .of_eq (fun _ h => Element.ofJson_toJson h) fun _ _ h => Element.fits_of_ofJson h
  case relationship => exact .of_eq (fun r _ => Relationship.ofJson_toJson r) fun _ _ _ => trivial
  case tree => exact .of_eq FileNode.ofJson_toJson fun _ n h => FileNode.fits_of_ofJson n h
  case statistics =>
    exact .of_eq (fun _ h => Build.Statistics.ofJson_toJson h) fun _ _ h => Build.Statistics.fits_of_ofJson h
  case answer => exact .of_eq (fun m _ => QueryMatch.ofJson_toJson m) fun _ _ _ => trivial
  case graph =>
    exact .of_written (fun _ h => GraphExport.ofJson_toJson h) (fun _ _ h => GraphExport.fits_of_ofJson h)
      fun _ _ h => h.toJson_eq

-- Fields out of order, an unknown one, a word as an object, and no value for the language.
example : FileNode.ofJson (.obj [("size", .nat 3), ("owner", .str "x"), ("type", .obj [("file", .null)]),
    ("path", .str "a/b.py"), ("language", .null), ("name", .str "b.py")]) =
      .ok (.mk "b.py" "a/b.py" .file 3 none []) := rfl

end CodeAtlas.Json
