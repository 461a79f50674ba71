/-
Adding the same file twice.

A file may declare an identifier several times, with another name or kind each time,
so adding it again replaces the elements it has left by its earlier ones before they
are put back.  What counts is that nothing is looked up in between: references wait
until all elements of the file are there.

By then the second round has changed nothing.  An identifier of the file holds the
last element that the file declares for it, as it did before, and the index is only
extended by identifiers that are new, of which a second round has none.  A reference
is looked up in these two only, so it leads where it led the first time.
-/
import CodeAtlas.Proofs.Assembler.Representation

namespace CodeAtlas.Graph.Assembler

/-! ### What adding elements leaves behind -/

/-- Where an element was added, the last one is stored, and elsewhere what was there before. -/
theorem getElem?_foldl_addElement (es : List Element) (a : Assembler) (id : String) :
    (es.foldl addElement a).elements[id]? = (last? es id).or a.elements[id]? := by
  induction es using List.reverseRecOn with
  | nil => rfl
  | append_singleton before e ih =>
      rw [List.foldl_append, List.foldl_cons, List.foldl_nil, last?_append]
      show ((before.foldl addElement a).elements.insert e.id e)[id]? = _
      rw [Std.TreeMap.getElem?_insert, ih]
      by_cases h : e.id = id
      · simp [h]
      · simp [h]

theorem contains_foldl_addElement (es : List Element) (a : Assembler) {e : Element} (he : e ∈ es) :
    (es.foldl addElement a).elements.contains e.id = true := by
  have hlast : (last? es e.id).isSome = true := isSome_last?_iff.mpr (List.mem_map_of_mem he)
  rw [Std.TreeMap.contains_eq_isSome_getElem?, getElem?_foldl_addElement, Option.isSome_or, hlast, Bool.true_or]

/-- Elements whose identifiers are all known are not indexed again. -/
theorem foldl_addElement_byName : ∀ {es : List Element} {a : Assembler},
    (∀ e ∈ es, a.elements.contains e.id = true) → (es.foldl addElement a).byName = a.byName := by
  intro es
  induction es with
  | nil => intro a _; rfl
  | cons e rest ih =>
      intro a h
      have hhead : (a.addElement e).byName = a.byName := if_pos (h e List.mem_cons_self)
      have hrest : ∀ e' ∈ rest, (a.addElement e).elements.contains e'.id = true := by
        intro e' he'
        show (a.elements.insert e.id e).contains e'.id = true
        rw [Std.TreeMap.contains_insert, h e' (List.mem_cons_of_mem _ he'), Bool.or_true]
      rw [List.foldl_cons, ih hrest, hhead]

/-! ### What a reference is looked up in -/

/-- References are looked up in the elements and the index, and in nothing else. -/
theorem resolve?_congr {a b : Assembler} (helements : ∀ id : String, a.elements[id]? = b.elements[id]?)
    (hbyName : a.byName = b.byName) (filePath : String) (r : Reference) :
    a.resolve? filePath r = b.resolve? filePath r := by
  have hlook : (fun id : String => a.elements[id]?) = fun id => b.elements[id]? := funext helements
  have hcandidates : a.candidates r = b.candidates r := by
    unfold candidates
    rw [hbyName, hlook]
  unfold resolve?
  rw [hcandidates]

/-! ### The second round -/

section

variable (a : Assembler) (filePath : String) (x : Extraction)

theorem push_elements : (a.push filePath x).elements = (x.elements.foldl addElement a).elements := by
  rw [push_eq]

theorem push_byName : (a.push filePath x).byName = (x.elements.foldl addElement a).byName := by
  rw [push_eq]

/-- The elements of a file are stored as they are already. -/
theorem foldl_addElement_push_elements (id : String) :
    (x.elements.foldl addElement (a.push filePath x)).elements[id]? = (a.push filePath x).elements[id]? := by
  rw [getElem?_foldl_addElement, push_elements, getElem?_foldl_addElement, ← Option.or_assoc, Option.or_self]

theorem foldl_addElement_push_byName :
    (x.elements.foldl addElement (a.push filePath x)).byName = (a.push filePath x).byName := by
  refine foldl_addElement_byName fun e he => ?_
  rw [push_elements]
  exact contains_foldl_addElement x.elements a he

/-- While the references of a file are looked up, the elements and the index are those that it leaves behind. -/
theorem resolve?_foldl_addElement (r : Reference) :
    (x.elements.foldl addElement a).resolve? filePath r = (a.push filePath x).resolve? filePath r :=
  resolve?_congr (fun id => by rw [push_elements]) (push_byName a filePath x).symm filePath r

theorem resolve?_push_push (r : Reference) :
    ((a.push filePath x).push filePath x).resolve? filePath r = (a.push filePath x).resolve? filePath r := by
  rw [← resolve?_foldl_addElement]
  exact resolve?_congr (foldl_addElement_push_elements a filePath x) (foldl_addElement_push_byName a filePath x)
    filePath r

/-- The relationships that a file stands for when its references are looked up in an assembler. -/
def contributionIn : List Relationship :=
  x.relationships ++ x.references.filterMap fun r => (a.resolve? filePath r).map r.to

/-- How many references of a file lead nowhere when they are looked up in an assembler. -/
def droppedIn : Nat :=
  x.references.countP fun r => (a.resolve? filePath r).isNone

theorem push_relationships_eq :
    (a.push filePath x).relationships = a.relationships ++ (a.push filePath x).contributionIn filePath x := by
  unfold contributionIn
  simp only [← resolve?_foldl_addElement]
  rw [push_eq]
  rfl

theorem push_dropped_eq : (a.push filePath x).dropped = a.dropped + (a.push filePath x).droppedIn filePath x := by
  unfold droppedIn
  simp only [← resolve?_foldl_addElement]
  rw [push_eq]

end

/--
**Adding a file again changes no element.**  Whatever was put together before and
whatever the file declares, a second time right after the first leaves the elements
and the index as they are, adds the same relationships once more and drops as many
references once more.
-/
theorem push_push (a : Assembler) (filePath : String) (x : Extraction) :
    let once := a.push filePath x
    let twice := once.push filePath x
    twice.elements.toList = once.elements.toList ∧ twice.byName = once.byName ∧
    (once.relationships = a.relationships ++ once.contributionIn filePath x ∧
      twice.relationships = once.relationships ++ once.contributionIn filePath x) ∧
    once.dropped = a.dropped + once.droppedIn filePath x ∧ twice.dropped = once.dropped + once.droppedIn filePath x := by
  intro once twice
  have hresolve : ∀ r, twice.resolve? filePath r = once.resolve? filePath r := resolve?_push_push a filePath x
  have hcontribution : twice.contributionIn filePath x = once.contributionIn filePath x := by
    unfold contributionIn
    simp only [hresolve]
  have hdropped : twice.droppedIn filePath x = once.droppedIn filePath x := by
    unfold droppedIn
    simp only [hresolve]
  have hequiv : twice.elements.Equiv once.elements := by
    refine .of_forall_constGet?_eq fun id => ?_
    rw [push_elements]
    exact foldl_addElement_push_elements a filePath x id
  refine ⟨Std.TreeMap.equiv_iff_toList_eq.mp hequiv, ?_, ⟨push_relationships_eq a filePath x, ?_⟩,
    push_dropped_eq a filePath x, ?_⟩
  · rw [push_byName]
    exact foldl_addElement_push_byName a filePath x
  · rw [← hcontribution]
    exact push_relationships_eq once filePath x
  · rw [← hdropped]
    exact push_dropped_eq once filePath x

end CodeAtlas.Graph.Assembler
