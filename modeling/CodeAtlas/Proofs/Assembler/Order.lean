/-
What the order of files can change.

A reference is resolved against its own file first and against the files before it
only if nothing fits there.  So as long as no two files have anything in common, the
elements of other files do not come into the way of a reference that its own file can
answer, in whatever order the files are added: `found?_of_apart` says that its own
file is searched as if it were alone.  A reference that its file cannot answer leads
back to a file before it, and which one that is depends on the order.

The index mixes the identifiers of different files, in another way for every order.
But it can be taken apart again, `choices_append`: what it offers for a name is what
the files before offer, followed by what the file itself does.
-/
import CodeAtlas.Proofs.Assembler.Representation
import Mathlib.Data.List.Basic

namespace CodeAtlas.Graph.Assembler

/-- Files that have nothing in common: their paths differ, their elements are their own, and no identifier is declared
by two of them. -/
structure Apart (pushes : List (String × Extraction)) : Prop where
  paths : (pushes.map Prod.fst).Nodup
  owned : ∀ p ∈ pushes, ∀ e ∈ p.2.elements, e.filePath = p.1
  ids : pushes.Pairwise fun p q => ∀ d ∈ p.2.elements, ∀ e ∈ q.2.elements, d.id ≠ e.id

theorem Apart.perm {ps qs : List (String × Extraction)} (h : Apart ps) (hperm : ps.Perm qs) : Apart qs := by
  refine ⟨(hperm.map Prod.fst).nodup_iff.mp h.paths, ?_, ?_⟩
  · intro p hp
    exact h.owned p (hperm.mem_iff.mpr hp)
  · refine hperm.pairwise h.ids ?_
    intro p q hpq d hd e he heq
    exact hpq e he d hd heq.symm

/-! ### Two lists of elements without a common identifier -/

section

variable {xs ys : List Element} (hids : ∀ d ∈ xs, ∀ e ∈ ys, d.id ≠ e.id)

include hids

theorem not_mem_ids_left {id : String} (h : id ∈ ys.map Element.id) : id ∉ xs.map Element.id := by
  intro hx
  obtain ⟨e, he, rfl⟩ := List.mem_map.mp h
  obtain ⟨d, hd, hid⟩ := List.mem_map.mp hx
  exact hids d hd e he hid

theorem not_mem_ids_right {id : String} (h : id ∈ xs.map Element.id) : id ∉ ys.map Element.id :=
  fun hy => not_mem_ids_left hids hy h

theorem idsNamed_append (name : String) : idsNamed (xs ++ ys) name = idsNamed xs name ++ idsNamed ys name := by
  have hapart : (ys.map Element.id).removeAll (xs.map Element.id) = ys.map Element.id := by
    rw [List.removeAll, List.filter_eq_self]
    intro id hid
    simpa using not_mem_ids_left hids hid
  unfold idsNamed
  rw [List.map_append, List.eraseDups_append, hapart, List.filter_append]
  congr 1
  · refine List.filter_congr fun id hid => ?_
    have hsome : (first? xs id).isSome = true := by
      simpa [first?, List.find?_isSome] using List.mem_eraseDups.mp hid
    rw [first?_append_list, Option.or_eq_left_of_isSome hsome]
  · refine List.filter_congr fun id hid => ?_
    have hnone := first?_eq_none (not_mem_ids_left hids (List.mem_eraseDups.mp hid))
    rw [first?_append_list, hnone, Option.none_or]

theorem last?_append_left {id : String} (h : id ∈ xs.map Element.id) : last? (xs ++ ys) id = last? xs id := by
  rw [last?_append_list, last?_eq_none (not_mem_ids_right hids h), Option.none_or]

theorem last?_append_right {id : String} (h : id ∈ ys.map Element.id) : last? (xs ++ ys) id = last? ys id := by
  rw [last?_append_list, last?_eq_none (not_mem_ids_left hids h), Option.or_none]

theorem eligible_append (r : Reference) : eligible (xs ++ ys) r = eligible xs r ++ eligible ys r := by
  unfold eligible
  rw [idsNamed_append hids, List.filter_append]
  congr 1
  · refine List.filter_congr fun id hid => ?_
    rw [last?_append_left hids (mem_idsNamed hid)]
  · refine List.filter_congr fun id hid => ?_
    rw [last?_append_right hids (mem_idsNamed hid)]

end

/-! ### What a reference can choose from -/

/-- The elements that a reference can lead to, in the order of the index. -/
def choices (known : List Element) (r : Reference) : List Element :=
  (eligible known r).filterMap (last? known)

theorem choices_append {xs ys : List Element} (hids : ∀ d ∈ xs, ∀ e ∈ ys, d.id ≠ e.id) (r : Reference) :
    choices (xs ++ ys) r = choices xs r ++ choices ys r := by
  unfold choices
  rw [eligible_append hids, List.filterMap_append]
  congr 1
  · refine List.filterMap_congr fun id hid => ?_
    exact last?_append_left hids (mem_idsNamed (List.mem_filter.mp hid).1)
  · refine List.filterMap_congr fun id hid => ?_
    exact last?_append_right hids (mem_idsNamed (List.mem_filter.mp hid).1)

theorem mem_of_mem_choices {known : List Element} {r : Reference} {e : Element} (h : e ∈ choices known r) :
    e ∈ known := by
  obtain ⟨id, -, hlast⟩ := List.mem_filterMap.mp h
  exact List.mem_reverse.mp (List.mem_of_find?_eq_some hlast)

theorem found?_eq_choices (before : List (String × Extraction)) (p : String × Extraction) (r : Reference) :
    found? before p r = ((choices (declared (before ++ [p])) r).find? (·.filePath == p.1)).or
      (choices (declared (before ++ [p])) r).head? := by
  have hchoices : (p.2.elements.foldl addElement (ofPushes before)).candidates r =
      choices (declared (before ++ [p])) r := candidates_eq (found?_tracks before p) r
  unfold found? resolve?
  rw [hchoices]
  simp only []
  cases (choices (declared (before ++ [p])) r).find? (·.filePath == p.1) with
  | none => rfl
  | some e => rfl

/-! ### Files that are apart -/

theorem find?_eq_head? {α : Type} {f : α → Bool} {l : List α} (h : ∀ a ∈ l, f a = true) : l.find? f = l.head? := by
  cases l with
  | nil => rfl
  | cons a rest => rw [List.find?_cons_of_pos (h a List.mem_cons_self), List.head?_cons]

section

variable {before after : List (String × Extraction)} {p : String × Extraction} (h : Apart (before ++ p :: after))

include h

theorem path_ne_of_declared {e : Element} (he : e ∈ declared before) : e.filePath ≠ p.1 := by
  obtain ⟨q, hq, heq⟩ := mem_declared.mp he
  rw [h.owned q (List.mem_append_left _ hq) e heq]
  have hpaths := h.paths
  rw [List.map_append, List.nodup_append] at hpaths
  exact hpaths.2.2 q.1 (List.mem_map.mpr ⟨q, hq, rfl⟩) p.1 (by simp)

theorem ids_ne_of_declared : ∀ d ∈ declared before, ∀ e ∈ p.2.elements, d.id ≠ e.id := by
  intro d hd e he
  obtain ⟨q, hq, hdq⟩ := mem_declared.mp hd
  exact (List.pairwise_append.mp h.ids).2.2 q hq p List.mem_cons_self d hdq e he

theorem path_of_choices {r : Reference} {e : Element} (he : e ∈ choices p.2.elements r) : e.filePath = p.1 :=
  h.owned p (by simp) e (mem_of_mem_choices he)

/-- **The own file is searched as if it were alone**, and only then the files before it. -/
theorem found?_of_apart (r : Reference) : found? before p r =
    (choices p.2.elements r).head?.or (choices (declared before) r).head? := by
  have hothers : (choices (declared before) r).find? (·.filePath == p.1) = none := by
    rw [List.find?_eq_none]
    intro e he
    simpa using path_ne_of_declared h (mem_of_mem_choices he)
  have hown : (choices p.2.elements r).find? (·.filePath == p.1) = (choices p.2.elements r).head? := by
    refine find?_eq_head? fun e he => ?_
    simpa using path_of_choices h he
  rw [found?_eq_choices, declared_append, declared_singleton, choices_append (ids_ne_of_declared h),
    List.find?_append, hothers, Option.none_or, hown, List.head?_append]
  cases (choices p.2.elements r).head? with
  | none => simp
  | some e => simp

theorem found?_in_file_iff {r : Reference} {e : Element} :
    found? before p r = some e ∧ e.filePath = p.1 ↔ (choices p.2.elements r).head? = some e := by
  rw [found?_of_apart h]
  constructor
  · rintro ⟨hfound, hpath⟩
    rcases Option.or_eq_some_iff.mp hfound with hown | ⟨-, hother⟩
    · exact hown
    · exact absurd hpath (path_ne_of_declared h (mem_of_mem_choices (List.mem_of_head? hother)))
  · intro hown
    rw [hown, Option.some_or]
    exact ⟨rfl, path_of_choices h (List.mem_of_head? hown)⟩

theorem found?_across_files {r : Reference} {e : Element} (hfound : found? before p r = some e)
    (hpath : e.filePath ≠ p.1) : ∃ q ∈ before, e ∈ q.2.elements ∧ e.filePath = q.1 := by
  rw [found?_of_apart h] at hfound
  rcases Option.or_eq_some_iff.mp hfound with hown | ⟨-, hother⟩
  · exact absurd (path_of_choices h (List.mem_of_head? hown)) hpath
  · obtain ⟨q, hq, heq⟩ := mem_declared.mp (mem_of_mem_choices (List.mem_of_head? hother))
    exact ⟨q, hq, heq, h.owned q (List.mem_append_left _ hq) e heq⟩

end

/-! ### Whole runs -/

/-- What the files of a run give one after the other, each seen with the files before it. -/
def eachAfter {α : Type} (f : List (String × Extraction) → String × Extraction → List α) :
    List (String × Extraction) → List (String × Extraction) → List α
  | _, [] => []
  | before, p :: rest => f before p ++ eachAfter f (before ++ [p]) rest

/-- The relationships that a file states itself, and those of its references that lead to its own elements. -/
def within (before : List (String × Extraction)) (p : String × Extraction) : List Relationship :=
  p.2.relationships ++
    p.2.references.filterMap fun r => ((found? before p r).filter (·.filePath == p.1)).map r.to

/-- The relationships of the references of a file that lead to another file. -/
def across (before : List (String × Extraction)) (p : String × Extraction) : List Relationship :=
  p.2.references.filterMap fun r => ((found? before p r).filter (·.filePath != p.1)).map r.to

/-- What can be resolved is resolved within the file or across files. -/
theorem filterMap_perm_split (f : Reference → Option Element) (inFile : Element → Bool) : ∀ rs : List Reference,
    (rs.filterMap fun r => (f r).map r.to).Perm
      ((rs.filterMap fun r => ((f r).filter inFile).map r.to) ++
        rs.filterMap fun r => ((f r).filter fun e => !inFile e).map r.to) := by
  intro rs
  induction rs with
  | nil => exact .nil
  | cons r rest ih =>
      cases hf : f r with
      | none => simpa [List.filterMap_cons, hf] using ih
      | some e =>
          by_cases he : inFile e = true
          · simpa [List.filterMap_cons, hf, he, Option.filter] using ih
          · simp only [List.filterMap_cons, hf, he, Option.filter, Option.map_some, Bool.not_false]
            exact (ih.cons (r.to e)).trans List.perm_middle.symm

theorem within_across_perm (before : List (String × Extraction)) (p : String × Extraction) :
    (p.2.relationships ++ p.2.references.filterMap fun r => (found? before p r).map r.to).Perm
      (within before p ++ across before p) := by
  unfold within across
  rw [List.append_assoc]
  exact (filterMap_perm_split (found? before p) (·.filePath == p.1) p.2.references).append_left _

/-- **All relationships of a run are within files or across files.** -/
theorem relationships_perm : ∀ rest before : List (String × Extraction),
    (ofPushes (before ++ rest)).relationships.Perm
      ((ofPushes before).relationships ++ (eachAfter within before rest ++ eachAfter across before rest)) := by
  intro rest
  induction rest with
  | nil => intro before; simp [eachAfter]
  | cons p rest ih =>
      intro before
      have hrest := ih (before ++ [p])
      have hfile := within_across_perm before p
      rw [ofPushes_append_relationships, List.append_assoc, List.singleton_append] at hrest
      rw [List.perm_iff_count] at hrest hfile ⊢
      intro r
      have hrest := hrest r
      have hfile := hfile r
      simp only [eachAfter, List.count_append] at hrest hfile ⊢
      omega

/-- Among files that are apart, what a file gives within itself does not depend on the files before it. -/
theorem within_of_apart {before after : List (String × Extraction)} {p : String × Extraction}
    (h : Apart (before ++ p :: after)) : within before p = p.2.relationships ++
      p.2.references.filterMap fun r => (choices p.2.elements r).head?.map r.to := by
  unfold within
  congr 1
  refine List.filterMap_congr fun r _ => ?_
  have hfilter : (found? before p r).filter (·.filePath == p.1) = (choices p.2.elements r).head? := by
    ext e
    rw [← found?_in_file_iff h, Option.filter_eq_some_iff, beq_iff_eq]
  rw [hfilter]

theorem eachAfter_within : ∀ rest before : List (String × Extraction), Apart (before ++ rest) →
    eachAfter within before rest = rest.flatMap fun p => p.2.relationships ++
      p.2.references.filterMap fun r => (choices p.2.elements r).head?.map r.to := by
  intro rest
  induction rest with
  | nil => intro before _; rfl
  | cons p rest ih =>
      intro before h
      have hrest : Apart ((before ++ [p]) ++ rest) := by simpa using h
      rw [eachAfter, List.flatMap_cons, within_of_apart h, ih _ hrest]

/-- Every relationship and every reference of a file is counted once, as a relationship or as dropped. -/
theorem length_relationships_add_dropped (pushes : List (String × Extraction)) :
    (ofPushes pushes).relationships.length + (ofPushes pushes).dropped =
      (pushes.flatMap (·.2.relationships)).length + (pushes.flatMap (·.2.references)).length := by
  induction pushes using List.reverseRecOn with
  | nil => rfl
  | append_singleton ps p ih =>
      have hreferences := List.length_eq_countP_add_countP (fun r => (found? ps p r).isNone) (l := p.2.references)
      have hresolved : (p.2.references.filterMap fun r => (found? ps p r).map r.to).length =
          p.2.references.countP fun r => ¬ (found? ps p r).isNone = true := by
        rw [List.length_filterMap_eq_countP]
        congr 1
        funext r
        cases found? ps p r <;> rfl
      rw [ofPushes_append_relationships, ofPushes_append_dropped]
      simp only [List.length_append, List.flatMap_append, List.flatMap_singleton]
      omega

/--
**The order of files matters only across files.**  Let the files have nothing in
common, and let them be added in two orders.  A reference that leads to an element of
its own file in one order leads to the same element in the other, and the
relationships within files are the same, counted with repetitions.  All other
relationships lead, in either order, to an element of a file that was added before.
The relationships and the dropped references together are equally many.
-/
theorem order_matters_across_files_only (ps qs : List (String × Extraction)) (h : Apart ps) (hperm : ps.Perm qs) :
    (∀ before p after before' after', ps = before ++ p :: after → qs = before' ++ p :: after' →
      ∀ r ∈ p.2.references, ∀ e, found? before p r = some e ∧ e.filePath = p.1 ↔
        found? before' p r = some e ∧ e.filePath = p.1) ∧
    (eachAfter within [] ps).Perm (eachAfter within [] qs) ∧
    (∀ order, order = ps ∨ order = qs →
      (ofPushes order).relationships.Perm (eachAfter within [] order ++ eachAfter across [] order) ∧
      ∀ before p after, order = before ++ p :: after → ∀ r ∈ p.2.references, ∀ e, found? before p r = some e →
        e.filePath ≠ p.1 → ∃ q ∈ before, e ∈ q.2.elements ∧ e.filePath = q.1) ∧
    (ofPushes ps).relationships.length + (ofPushes ps).dropped =
      (ofPushes qs).relationships.length + (ofPushes qs).dropped := by
  have h' : Apart qs := h.perm hperm
  refine ⟨?_, ?_, ?_, ?_⟩
  · rintro before p after before' after' rfl rfl r - e
    rw [found?_in_file_iff h, found?_in_file_iff h']
  · rw [eachAfter_within ps [] h, eachAfter_within qs [] h']
    exact hperm.flatMap_right _
  · rintro order horder
    have happart : Apart order := by
      rcases horder with rfl | rfl
      · exact h
      · exact h'
    refine ⟨by simpa [ofPushes, empty] using relationships_perm order [], ?_⟩
    rintro before p after rfl r - e hfound hpath
    exact found?_across_files happart hfound hpath
  · rw [length_relationships_add_dropped, length_relationships_add_dropped,
      (hperm.flatMap_right _).length_eq, (hperm.flatMap_right _).length_eq]

/-- A file with the function `g` and one more, which calls `g` and a function of another file. -/
def callingFile (path name other : String) : String × Extraction :=
  let id := path ++ ":" ++ name
  (path, ⟨[.bare name .function path, .bare "g" .function path], [], [⟨id, "g", .calls, 1⟩, ⟨id, other, .calls, 2⟩]⟩)

/-- Two files that call each other. -/
def callingFiles : List (String × Extraction) :=
  [callingFile "a.py" "f" "h", callingFile "b.py" "h" "f"]

theorem calling_files_in_both_orders :
    Apart callingFiles ∧ callingFiles.Perm callingFiles.reverse ∧
    (ofPushes callingFiles).relationships =
      [⟨"a.py:f", "a.py:g", .calls⟩, ⟨"b.py:h", "b.py:g", .calls⟩, ⟨"b.py:h", "a.py:f", .calls⟩] ∧
    (ofPushes callingFiles.reverse).relationships =
      [⟨"b.py:h", "b.py:g", .calls⟩, ⟨"a.py:f", "a.py:g", .calls⟩, ⟨"a.py:f", "b.py:h", .calls⟩] ∧
    (eachAfter within [] callingFiles).Perm (eachAfter within [] callingFiles.reverse) := by
  have hapart : Apart callingFiles := ⟨by decide +kernel, by decide +kernel, by decide +kernel⟩
  have hperm : callingFiles.Perm callingFiles.reverse := (List.reverse_perm _).symm
  refine ⟨hapart, hperm, ?_, ?_, (order_matters_across_files_only _ _ hapart hperm).2.1⟩
  · rw [ofPushes_relationships]
    decide +kernel
  · rw [ofPushes_relationships]
    decide +kernel

end CodeAtlas.Graph.Assembler
