/-
Whether the order in which files are merged matters for the elements.

Of several declarations with one identifier the graph keeps the last.  As long as no
two files declare the same identifier, the last one is the last one of its file, and
the order of the files does not matter.  As soon as two files do, it does: each of
them can be made the last of all, by naming all others as entry points, and the
element then kept says which file it is from.

Identifiers begin with the path of their file and a colon, and paths may have colons,
so files with a common identifier exist.  They can only be such that the path of one
is the beginning of the path of the other up to a colon.
-/
import CodeAtlas.Proofs.Build.Merge
import CodeAtlas.Proofs.Crawl.Files
import CodeAtlas.Proofs.Parsing.Qualified

namespace CodeAtlas.Graph.Assembler

/-! ### The last declaration of many files -/

theorem last?_flatMap_eq_none {f : String → List Element} {id : String} {order : List String}
    (h : ∀ b ∈ order, id ∉ (f b).map Element.id) : last? (order.flatMap f) id = none := by
  refine last?_eq_none fun hin => ?_
  obtain ⟨e, he, rfl⟩ := List.mem_map.mp hin
  obtain ⟨b, hb, heb⟩ := List.mem_flatMap.mp he
  exact h b hb (List.mem_map.mpr ⟨e, heb, rfl⟩)

/-- If one file alone declares an identifier, its last declaration there is the last one of all. -/
theorem last?_flatMap_of_owner {f : String → List Element} {id owner : String} :
    ∀ {order : List String}, owner ∈ order → (∀ b ∈ order, b ≠ owner → id ∉ (f b).map Element.id) →
      last? (order.flatMap f) id = last? (f owner) id := by
  intro order
  induction order with
  | nil => intro hmem _; cases hmem
  | cons b rest ih =>
      intro hmem hother
      have hrest : ∀ b ∈ rest, b ≠ owner → id ∉ (f b).map Element.id :=
        fun b hb => hother b (List.mem_cons_of_mem _ hb)
      have hhead : b ≠ owner → last? (f b) id = none :=
        fun hb => last?_eq_none (hother b List.mem_cons_self hb)
      rw [List.flatMap_cons, last?_append_list]
      by_cases howner : owner ∈ rest
      · rw [ih howner hrest]
        by_cases hb : b = owner
        · rw [hb, Option.or_self]
        · rw [hhead hb, Option.or_none]
      · have hnone : last? (rest.flatMap f) id = none := by
          refine last?_flatMap_eq_none fun b' hb' => hrest b' hb' ?_
          rintro rfl
          exact howner hb'
        have hb : owner = b := (List.mem_cons.mp hmem).resolve_right howner
        rw [hnone, Option.none_or, hb]

end CodeAtlas.Graph.Assembler

namespace CodeAtlas.Build

open CodeAtlas.Graph
open CodeAtlas.Graph.Assembler
open CodeAtlas.Crawl (fileEntries)
open CodeAtlas.Disk (holding)
open CodeAtlas.Parsing
open CodeAtlas.Text

/-! ### The order of files -/

theorem mem_mergeOrder {files entryPoints : List String} {path : String} :
    path ∈ mergeOrder files entryPoints ↔ path ∈ files := by
  unfold mergeOrder
  simp only [List.mem_eraseDups, List.mem_append, List.mem_filter, List.contains_iff_mem]
  constructor
  · rintro (⟨-, h⟩ | h)
    · exact h
    · exact h
  · exact Or.inr

theorem withoutDotSlash_of_no_step {path : List Char} (h : ¬ ['.', '/'] <+: path) : withoutDotSlash path = path := by
  unfold withoutDotSlash
  split
  · next rest => exact absurd ⟨rest, rfl⟩ h
  · rfl

theorem withoutDotSlash_of_plain {path : String} (h : Crawl.Plain path) :
    withoutDotSlash path.toList = path.toList := by
  refine withoutDotSlash_of_no_step ?_
  rintro ⟨rest, heq⟩
  exact h.2.2 rest heq.symm

theorem map_withoutDotSlash {paths : List String} (h : ∀ path ∈ paths, Crawl.Plain path) :
    (paths.map fun p => String.ofList (withoutDotSlash p.toList)) = paths := by
  rw [List.map_congr_left (g := id), List.map_id]
  intro p hp
  rw [withoutDotSlash_of_plain (h p hp), String.ofList_toList, id]

theorem eraseDups_of_all_eq {a : String} {l : List String} (hne : l ≠ []) (h : ∀ b ∈ l, b = a) :
    l.eraseDups = [a] := by
  cases l with
  | nil => exact absurd rfl hne
  | cons b rest =>
      have hrest : rest.filter (fun c => !c == b) = [] := by
        rw [List.filter_eq_nil_iff]
        intro c hc
        simp [h c (List.mem_cons_of_mem _ hc), h b List.mem_cons_self]
      rw [List.eraseDups_cons, hrest, List.eraseDups_nil, h b List.mem_cons_self]

/-- Without all others, what is left of the files is one of them, as often as it is listed. -/
theorem mem_removeAll_others {files : List String} {a p : String} (ha : a ∈ files) :
    p ∈ files.removeAll (files.filter (· != a)) ↔ p = a := by
  simp only [List.removeAll, List.mem_filter, Bool.not_eq_true', List.elem_eq_contains, List.contains_eq_mem,
    decide_eq_false_iff_not, bne_iff_ne]
  constructor
  · rintro ⟨hp, hnot⟩
    by_cases h : p = a
    · exact h
    · exact absurd ⟨hp, h⟩ hnot
  · rintro rfl
    exact ⟨ha, fun h => h.2 rfl⟩

/-- **Any file can be made the last one**, by naming all others as entry points. -/
theorem mergeOrder_last {files : List String} (hplain : ∀ path ∈ files, Crawl.Plain path) {a : String}
    (ha : a ∈ files) : ∃ before, mergeOrder files (files.filter (· != a)) = before ++ [a] := by
  have hothers : ∀ p ∈ files.filter (· != a), p ∈ files := fun p hp => (List.mem_filter.mp hp).1
  have hfirst := map_withoutDotSlash fun p hp => hplain p (hothers p hp)
  have hkept : (files.filter (· != a)).filter files.contains = files.filter (· != a) := by
    rw [List.filter_eq_self]
    intro p hp
    exact List.contains_iff_mem.mpr (hothers p hp)
  have hrest : (files.removeAll (files.filter (· != a))).eraseDups = [a] := by
    refine eraseDups_of_all_eq ?_ fun b hb => (mem_removeAll_others ha).mp hb
    exact List.ne_nil_of_mem ((mem_removeAll_others ha).mpr rfl)
  refine ⟨(files.filter (· != a)).eraseDups, ?_⟩
  unfold mergeOrder
  simp only []
  rw [hfirst, hkept, List.eraseDups_append, hrest]

/-! ### What the files of a crawl declare -/

/-- The elements of a file of a crawl, none if it cannot be read. -/
def elementsAt (p : Parser) (d : Disk) (c : Crawl) (language path : String) : List Element :=
  ((process p d c language path).result.map (·.1.elements)).getD []

/-- The paths of the files that a build reads. -/
def codePaths (c : Crawl) (language : String) : List String :=
  (c.codeFilesOf language).map (·.path)

theorem declared_merged (f : String → Outcome) : ∀ order : List String,
    declared (merged (order.map f)) = order.flatMap fun path => ((f path).result.map (·.1.elements)).getD [] := by
  intro order
  induction order with
  | nil => rfl
  | cons path rest ih =>
      rw [List.flatMap_cons, ← ih, List.map_cons]
      unfold merged
      cases hresult : (f path).result with
      | none =>
          rw [List.filterMap_cons_none (by rw [hresult]; rfl)]
          rfl
      | some r =>
          rw [List.filterMap_cons_some (by rw [hresult]; rfl)]
          rfl

theorem assemble_get? (p : Parser) (d : Disk) (c : Crawl) (language : String) (entryPoints : List String)
    (id : String) : (assemble p d c language entryPoints).1.get? id =
      last? ((mergeOrder (codePaths c language) entryPoints).flatMap (elementsAt p d c language)) id := by
  unfold assemble
  rw [ofOutcomes_get?, declared_merged]
  rfl

theorem elementsAt_of_read {d : Disk} {c : Crawl} {path : String} {content : ByteArray}
    (h : d.read (c.pathOf path) = .ok content) (p : Parser) (language : String) :
    elementsAt p d c language path = (p.run language ⟨path, decodeLossy content⟩).1.elements := by
  unfold elementsAt process
  rw [h]
  rfl

theorem elementsAt_owned {p : Parser} (hp : p.ReadsKnown) (d : Disk) (c : Crawl) (language path : String) :
    ∀ e ∈ elementsAt p d c language path, e.filePath = path ∧ Qualified path e.id := by
  intro e he
  unfold elementsAt process at he
  split at he
  · cases he
  · next content _ => exact Parser.run_owned hp language ⟨path, decodeLossy content⟩ e he

/-- Two different files that a build reads never declare the same identifier. -/
def DisjointFiles (p : Parser) (d : Disk) (c : Crawl) (language : String) : Prop :=
  ∀ a ∈ codePaths c language, ∀ b ∈ codePaths c language, a ≠ b →
    ∀ e ∈ elementsAt p d c language a, ∀ e' ∈ elementsAt p d c language b, e.id ≠ e'.id

/-- The graph has the same elements whatever the entry points are. -/
def OrderFree (p : Parser) (d : Disk) (c : Crawl) (language : String) : Prop :=
  ∀ first second id,
    (assemble p d c language first).1.get? id = (assemble p d c language second).1.get? id

section

variable {p : Parser} {d : Disk} {c : Crawl} {language : String}

/-- The files of a build declare different identifiers if no path goes on, after a colon, from another one. -/
theorem disjointFiles_of_paths (hp : p.ReadsKnown)
    (h : ∀ a ∈ codePaths c language, ∀ b ∈ codePaths c language, ¬ Qualified a b) :
    DisjointFiles p d c language := by
  intro a ha b hb hne e he e' he' hid
  have hqa := (elementsAt_owned hp d c language a e he).2
  have hqb := (elementsAt_owned hp d c language b e' he').2
  rw [← hid] at hqb
  rcases eq_or_qualified hqa hqb with heq | hab | hba
  · exact hne heq
  · exact h a ha b hb hab
  · exact h b hb a ha hba

theorem orderFree_of_disjointFiles (h : DisjointFiles p d c language) : OrderFree p d c language := by
  intro first second id
  rw [assemble_get?, assemble_get?]
  by_cases howner : ∃ a ∈ codePaths c language, ∃ e ∈ elementsAt p d c language a, e.id = id
  · obtain ⟨a, ha, e, he, rfl⟩ := howner
    have hother : ∀ b ∈ codePaths c language, b ≠ a →
        e.id ∉ (elementsAt p d c language b).map Element.id := by
      intro b hb hne hin
      obtain ⟨e', he', hid⟩ := List.mem_map.mp hin
      exact h a ha b hb (Ne.symm hne) e he e' he' hid.symm
    rw [last?_flatMap_of_owner (mem_mergeOrder.mpr ha) fun b hb => hother b (mem_mergeOrder.mp hb),
      last?_flatMap_of_owner (mem_mergeOrder.mpr ha) fun b hb => hother b (mem_mergeOrder.mp hb)]
  · have hnone : ∀ b ∈ codePaths c language, id ∉ (elementsAt p d c language b).map Element.id := by
      intro b hb hin
      obtain ⟨e, he, hid⟩ := List.mem_map.mp hin
      exact howner ⟨b, hb, e, he, hid⟩
    rw [last?_flatMap_eq_none fun b hb => hnone b (mem_mergeOrder.mp hb),
      last?_flatMap_eq_none fun b hb => hnone b (mem_mergeOrder.mp hb)]

/-- With the right entry points the graph keeps the declaration of a given file. -/
theorem exists_entryPoints_keeping (hp : p.ReadsKnown) (hplain : ∀ path ∈ codePaths c language, Crawl.Plain path)
    {a : String} (ha : a ∈ codePaths c language) {e : Element} (he : e ∈ elementsAt p d c language a) :
    ∃ entryPoints kept, (assemble p d c language entryPoints).1.get? e.id = some kept ∧ kept.filePath = a := by
  obtain ⟨before, horder⟩ := mergeOrder_last hplain ha
  have hsome : (last? (elementsAt p d c language a) e.id).isSome = true :=
    isSome_last?_iff.mpr (List.mem_map.mpr ⟨e, he, rfl⟩)
  obtain ⟨kept, hkept⟩ := Option.isSome_iff_exists.mp hsome
  refine ⟨(codePaths c language).filter (· != a), kept, ?_, ?_⟩
  · rw [assemble_get?, horder, List.flatMap_append, last?_append_list, List.flatMap_singleton, hkept,
      Option.some_or]
  · have hmem : kept ∈ (elementsAt p d c language a).reverse := List.mem_of_find?_eq_some hkept
    exact (elementsAt_owned hp d c language a kept (List.mem_reverse.mp hmem)).1

theorem disjointFiles_of_orderFree (hp : p.ReadsKnown)
    (hplain : ∀ path ∈ codePaths c language, Crawl.Plain path) (h : OrderFree p d c language) :
    DisjointFiles p d c language := by
  intro a ha b hb hne e he e' he' hid
  obtain ⟨first, kept, hfirst, hpath⟩ := exists_entryPoints_keeping hp hplain ha he
  obtain ⟨second, kept', hsecond, hpath'⟩ := exists_entryPoints_keeping hp hplain hb he'
  have hsame := h first second e.id
  rw [hfirst, hid, hsecond, Option.some.injEq] at hsame
  exact hne (by rw [← hpath, ← hpath', hsame])

end

/--
**The elements of a graph are free of the order of its files exactly if no two files
declare the same identifier.**  This is so for every disk whose names a file system
allows, every crawl of it, every language and every way to parse.  It is the case,
whatever the files contain, if no path of a file begins with that of another one and
a colon.
-/
theorem elements_order_free_iff (p : Parser) (hp : p.ReadsKnown) (d : Disk) (hd : d.root.Allowed)
    (s : Crawl.Settings) (root : Bytes) (c : Crawl) (hc : Crawl.run s d root = .ok c) (language : String) :
    (OrderFree p d c language ↔ DisjointFiles p d c language) ∧
    ((∀ a ∈ codePaths c language, ∀ b ∈ codePaths c language, ¬ Qualified a b) →
      OrderFree p d c language) := by
  have hplain := Crawl.codeFilesOf_plain (Crawl.run_plain hd hc) language
  refine ⟨⟨?_, orderFree_of_disjointFiles⟩, ?_⟩
  · intro h
    exact disjointFiles_of_orderFree hp hplain h
  · intro h
    exact orderFree_of_disjointFiles (disjointFiles_of_paths hp h)

/-! ### Small repositories

Both ways in which a build can turn out, seen at disks that hold a single directory
of files.
-/

/-- The files of such a directory that a build reads, in their order. -/
theorem codePaths_of_sees {files : List (Bytes × ByteArray)} {c : Crawl} (h : Crawl.Sees files c)
    (language : String) :
    codePaths c language = ((Crawl.seenCode files).filter (·.language == some language)).map (·.path) := by
  unfold codePaths Crawl.codeFilesOf
  rw [h.codeFiles_eq]

/-- What a file of such a directory declares, if its name is a text. -/
theorem elementsAt_of_sees {files now : List (Bytes × ByteArray)} {c : Crawl} (h : Crawl.Sees files c)
    (hnow : Crawl.InOrder now) {f : Bytes × ByteArray} (hf : f ∈ now) (htext : IsText f.1) (p : Parser)
    (language : String) :
    elementsAt p (holding (fileEntries now)) c language (ofBytes f.1) =
      (p.run language ⟨ofBytes f.1, decodeLossy f.2⟩).1.elements := by
  refine elementsAt_of_read ?_ p language
  rw [h.pathOf_eq htext, hnow.read_eq hf]

/-- Two files with the same content, one of which has a colon in its name. -/
def filesApart : List (Bytes × ByteArray) := [
  (bytes "a.py", "class A: x = 1\n".toUTF8), (bytes "a:b.py", "class A: x = 1\n".toUTF8)]

theorem filesApart_order_free :
    Parser.standard.ReadsKnown ∧ (holding (fileEntries filesApart)).root.Allowed ∧
    ∃ c, Crawl.run ⟨[], 1000, false⟩ (holding (fileEntries filesApart)) (bytes "repo") = .ok c ∧
      codePaths c "python" = ["a.py", "a:b.py"] ∧
      OrderFree .standard (holding (fileEntries filesApart)) c "python" := by
  have horder : Crawl.InOrder filesApart := by decide
  have hallowed := Disk.holding_allowed horder.entries_allowed
  obtain ⟨c, hc, hseen⟩ := Crawl.run_fileEntries horder
  have hpaths : codePaths c "python" = ["a.py", "a:b.py"] := by
    rw [codePaths_of_sees hseen]
    decide +kernel
  refine ⟨Parser.standard_readsKnown, hallowed, c, hc, hpaths, ?_⟩
  refine (elements_order_free_iff .standard Parser.standard_readsKnown _ hallowed _ _ c hc "python").2 ?_
  rw [hpaths]
  decide +kernel

/-- A class with a variable, and a file whose name continues that of the first one with the name of the class. -/
def collidingFiles : List (Bytes × ByteArray) := [
  (bytes "a.py", "class b: c = 1\n".toUTF8), (bytes "a.py:b", "def c(): pass\n".toUTF8)]

/-- A parser that knows the trees of these two files. -/
def collidingParser : Parser where
  grammars := [{ Language.python with
    parse := fun text =>
      let line : Line := ⟨0, 0⟩
      some ⟨moduleOf [if text = "class b: c = 1\n" then line.classDefinition else line.functionDefinition], false⟩ }]
  rejectSyntaxErrors := true

/-- Both files declare the same identifier. -/
theorem collidingFiles_ids : ∀ f ∈ collidingFiles, IsText f.1 ∧ "a.py:b:c" ∈
    (collidingParser.run "python" ⟨ofBytes f.1, decodeLossy f.2⟩).1.elements.map Element.id := by
  decide +kernel

/-- **Two files of a repository can declare the same identifier, and which of the declarations is kept depends on the
order.** -/
theorem elements_depend_on_order :
    collidingParser.ReadsKnown ∧ (holding (fileEntries collidingFiles)).root.Allowed ∧
    ∃ c, Crawl.run ⟨[], 1000, false⟩ (holding (fileEntries collidingFiles)) (bytes "repo") = .ok c ∧
      ¬ DisjointFiles collidingParser (holding (fileEntries collidingFiles)) c "python" ∧
      ¬ OrderFree collidingParser (holding (fileEntries collidingFiles)) c "python" := by
  have hknown : collidingParser.ReadsKnown := by
    intro support hs
    rw [List.mem_singleton.mp hs]
    exact ⟨Language.python, List.mem_cons_self, rfl, rfl⟩
  have horder : Crawl.InOrder collidingFiles := by decide
  have hallowed := Disk.holding_allowed horder.entries_allowed
  obtain ⟨c, hc, hseen⟩ := Crawl.run_fileEntries horder
  have hpaths : codePaths c "python" = ["a.py", "a.py:b"] := by
    rw [codePaths_of_sees hseen]
    decide +kernel
  have hdeclared : ∀ f ∈ collidingFiles,
      ∃ e ∈ elementsAt collidingParser (holding (fileEntries collidingFiles)) c "python" (ofBytes f.1),
        e.id = "a.py:b:c" := by
    intro f hf
    obtain ⟨htext, hids⟩ := collidingFiles_ids f hf
    rw [elementsAt_of_sees hseen horder hf htext]
    exact List.mem_map.mp hids
  have hshared : ¬ DisjointFiles collidingParser (holding (fileEntries collidingFiles)) c "python" := by
    intro h
    obtain ⟨e, he, hid⟩ := hdeclared _ List.mem_cons_self
    obtain ⟨e', he', hid'⟩ := hdeclared _ (List.mem_cons_of_mem _ List.mem_cons_self)
    rw [ofBytes_bytes] at he he'
    rw [DisjointFiles, hpaths] at h
    exact h "a.py" (by decide) "a.py:b" (by decide) (by decide) e he e' he' (hid.trans hid'.symm)
  have hplain := Crawl.codeFilesOf_plain (Crawl.run_plain hallowed hc) "python"
  refine ⟨hknown, hallowed, c, hc, hshared, ?_⟩
  intro h
  exact hshared (disjointFiles_of_orderFree hknown hplain h)

end CodeAtlas.Build
