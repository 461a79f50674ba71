/-
Elements come in the order of the text.

Elements are `Arranged` within an extent when all of them lie in it and each one is
either inside those before it or after them.  What covers the whole extent may be put
in front, and arrangements within extents that follow each other can be joined.  A
walk does nothing else: declarations cover the site at which they are found, and the
walk goes on with sites that follow each other.

A declaration also precedes what is declared inside it.  `Enclosed` says this of a
list of elements that comes after some others.
-/
import CodeAtlas.Proofs.Language.Regular
import CodeAtlas.Proofs.Parsing.Extraction

namespace CodeAtlas.Outline

open CodeAtlas.Graph
open CodeAtlas.Syntax
open CodeAtlas.Text

/-- The element `b` is inside `a` or comes after it. -/
def Follows (a b : Element) : Prop :=
  b.extent.Inside a.extent ∨ a.extent.Before b.extent

/-- The elements lie within an extent and are in the order of the text. -/
structure Arranged (within : Extent) (es : List Element) : Prop where
  proper : ∀ e ∈ es, e.extent.Proper
  inside : ∀ e ∈ es, e.extent.Inside within
  ordered : es.Pairwise Follows

/-! ### How arrangements are put together -/

theorem arranged_nil {within : Extent} : Arranged within [] :=
  ⟨List.forall_mem_nil _, List.forall_mem_nil _, List.Pairwise.nil⟩

/-- Whatever covers the whole extent may come first. -/
theorem arranged_append_covering {within : Extent} (hproper : within.Proper) {es : List Element}
    (hes : Arranged within es) : ∀ {front : List Element}, (∀ e ∈ front, e.extent = within) →
      Arranged within (front ++ es) := by
  intro front
  induction front with
  | nil => intro _; exact hes
  | cons e rest ih =>
      intro hfront
      obtain ⟨he, hrest⟩ := List.forall_mem_cons.mp hfront
      have hinner := ih hrest
      refine ⟨List.forall_mem_cons.mpr ⟨?_, hinner.proper⟩, List.forall_mem_cons.mpr ⟨?_, hinner.inside⟩,
        List.Pairwise.cons ?_ hinner.ordered⟩
      · rw [he]
        exact hproper
      · rw [he]
        exact within.inside_refl
      · intro b hb
        refine Or.inl ?_
        rw [he]
        exact hinner.inside b hb

/-- Arrangements within extents that follow each other. -/
theorem arranged_flatMap {α : Type} {within : Extent} (extent : α → Extent) (elements : α → List Element)
    {parts : List α} (hbefore : parts.Pairwise fun a b => (extent a).Before (extent b))
    (hinside : ∀ a ∈ parts, (extent a).Inside within) (hparts : ∀ a ∈ parts, Arranged (extent a) (elements a)) :
    Arranged within (parts.flatMap elements) := by
  refine ⟨?_, ?_, List.pairwise_flatMap.mpr ⟨fun a ha => (hparts a ha).ordered, ?_⟩⟩
  · intro e he
    obtain ⟨a, ha, he⟩ := List.mem_flatMap.mp he
    exact (hparts a ha).proper e he
  · intro e he
    obtain ⟨a, ha, he⟩ := List.mem_flatMap.mp he
    exact ((hparts a ha).inside e he).trans (hinside a ha)
  · refine hbefore.imp_of_mem ?_
    intro a b ha hb hab x hx y hy
    exact Or.inr (hab.inside ((hparts a ha).inside x hx) ((hparts b hb).inside y hy))

theorem Arranged.map {within : Extent} {es : List Element} (h : Arranged within es) {f : Element → Element}
    (hf : ∀ e, (f e).extent = e.extent) : Arranged within (es.map f) := by
  refine ⟨?_, ?_, ?_⟩
  · intro e he
    obtain ⟨e', he', rfl⟩ := List.mem_map.mp he
    rw [hf]
    exact h.proper e' he'
  · intro e he
    obtain ⟨e', he', rfl⟩ := List.mem_map.mp he
    rw [hf]
    exact h.inside e' he'
  · rw [List.pairwise_map]
    refine h.ordered.imp ?_
    intro a b hab
    unfold Follows
    rw [hf, hf]
    exact hab

/-! ### The walk arranges elements -/

section

variable {rules : CallRules} {source : Source} {read : Reader}

theorem GoesOn.own_covers {s d : Site} {found : Finding s} (h : GoesOn rules source d found) (inner : List Element) :
    ∀ e ∈ found.own inner, e.extent = d.extent := by
  cases h with
  | function covers => exact List.forall_mem_singleton.mpr covers
  | block covers => exact List.forall_mem_singleton.mpr covers
  | attached => exact List.forall_mem_nil _
  | readOn => exact List.forall_mem_nil _
  | inside => exact List.forall_mem_nil _

/-- What a stage declares at the findings `fs` and after them. -/
def Stage.elementsOf (read : Reader) (v : Stage) (fs : List (Finding v.site)) : List Element :=
  fs.flatMap fun found => found.own (v.elementsAfter read found) ++ v.elementsAfter read found

theorem Stage.elementsOf_leaves (v : Stage) (elements : List Element) :
    v.elementsOf read (elements.map .leaf) = elements := by
  unfold Stage.elementsOf
  rw [List.flatMap_map]
  exact List.flatMap_singleton' elements

/-- What is found at one site is arranged, if all that is found below is. -/
theorem FoundAt.arranged {v : Stage} {d : Site} {fs : List (Finding v.site)} (h : FoundAt rules source d fs)
    (hd : d.node.WellFormed)
    (hbelow : ∀ u : Stage, d.Under u.site → Arranged u.site.extent (u.extraction read).elements) :
    Arranged d.extent (v.elementsOf read fs) := by
  have hproper : d.extent.Proper := (Node.wellFormed_iff.mp hd).1
  cases h with
  | @leaves elements covers =>
      rw [Stage.elementsOf_leaves, ← List.append_nil elements]
      exact arranged_append_covering hproper arranged_nil covers
  | @more elements found covers goesOn =>
      have hchildren : ∀ t, t = d ∨ d.Under t →
          t.children.Pairwise fun a b => a.val.extent.Before b.val.extent := by
        intro t ht
        refine Site.children_before ?_
        rcases ht with rfl | hunder
        · exact hd
        · exact hunder.wellFormed hd
      have hafter : Arranged d.extent (v.elementsAfter read found) := by
        refine arranged_flatMap (fun u : Stage => u.site.extent) _ ?_ ?_ ?_
        · exact goesOn.next_pairwise (R := fun a b => a.extent.Before b.extent) hchildren
        · exact fun u hu => (goesOn.under hu).inside hd
        · exact fun u hu => hbelow u (goesOn.under hu)
      have hsplit : v.elementsOf read (elements.map .leaf ++ [found]) =
          elements ++ (found.own (v.elementsAfter read found) ++ v.elementsAfter read found) := by
        show v.elementsOf read _ = _
        unfold Stage.elementsOf
        rw [List.flatMap_append, List.flatMap_singleton]
        exact congrArg (· ++ _) (v.elementsOf_leaves elements)
      rw [hsplit]
      refine arranged_append_covering hproper ?_ covers
      exact arranged_append_covering hproper hafter (goesOn.own_covers _)

/-- **What is declared at a stage and after it is in the order of the text.** -/
theorem Reader.Regular.arranged (h : read.Regular rules source) : ∀ (n : Nat) (v : Stage), v.site.size = n →
    v.site.node.WellFormed → Arranged v.site.extent (v.extraction read).elements := by
  intro n
  induction n using Nat.strongRecOn with
  | ind n ih =>
      intro v hn hv
      have hbelow : ∀ u : Stage, v.site.Under u.site → Arranged u.site.extent (u.extraction read).elements := by
        intro u hu
        exact ih u.site.size (hn ▸ hu.size_lt) u rfl (hu.wellFormed hv)
      rw [Stage.elements_eq]
      show Arranged _ (v.elementsOf read (read v.context v.site))
      rcases h v.context v.site with hhere | ⟨held, found, hsublist, heq, hheld⟩
      · exact hhere.arranged hv hbelow
      · have hholds : ∀ d ∈ held, v.site.Holds d.val := fun d hd => Site.holds_of_mem (hsublist.subset hd)
        rw [heq, Stage.elementsOf, List.flatMap_assoc]
        refine arranged_flatMap (fun d => d.val.extent) _ ?_ ?_ ?_
        · exact (Site.children_before hv).sublist hsublist
        · exact fun d hd => (hholds d hd).inside hv
        · intro d hd
          refine (hheld d hd).arranged ((hholds d hd).wellFormed hv) ?_
          exact fun u hu => hbelow u (Site.Under.trans (.child (hholds d hd)) hu)

/-- A whole tree is arranged. -/
theorem Reader.Regular.arranged_ofTree (h : read.Regular rules source) (limit : Option Nat) {tree : Node}
    (htree : tree.WellFormed) : Arranged tree.extent (extractionAll (ofTree read limit tree)).elements := by
  have hroot : (Site.root tree).node.WellFormed := htree
  unfold ofTree
  rw [elements_walkInside]
  refine arranged_flatMap (fun u : Stage => u.site.extent) _ ?_ ?_ ?_
  · exact entered_pairwise (R := fun a b => a.extent.Before b.extent) (Site.children_before hroot)
  · exact fun u hu => (mem_entered hu).1.inside hroot
  · exact fun u hu => h.arranged _ u rfl ((mem_entered hu).1.wellFormed hroot)

end

/-! ### Declarations precede what is inside them -/

/-- Each of some elements that come after `earlier` is inside an element before it, whose identifier is its parent. -/
def Enclosed : List Element → List Element → Prop
  | _, [] => True
  | earlier, e :: rest =>
    (∀ p, e.parent = some p → ∃ d ∈ earlier, d.id = p ∧ e.extent.Inside d.extent) ∧ Enclosed (e :: earlier) rest

theorem Enclosed.mono : ∀ {es earlier more : List Element}, Enclosed earlier es → earlier ⊆ more → Enclosed more es := by
  intro es
  induction es with
  | nil => intro earlier more _ _; exact trivial
  | cons e rest ih =>
      intro earlier more h hsub
      refine ⟨?_, ih h.2 (List.cons_subset_cons _ hsub)⟩
      intro p hp
      obtain ⟨d, hd, hin⟩ := h.1 p hp
      exact ⟨d, hsub hd, hin⟩

theorem Enclosed.append : ∀ {a b earlier : List Element}, Enclosed earlier a → Enclosed earlier b →
    Enclosed earlier (a ++ b) := by
  intro a
  induction a with
  | nil => intro b earlier _ hb; exact hb
  | cons e rest ih =>
      intro b earlier ha hb
      exact ⟨ha.1, ih ha.2 (hb.mono (List.subset_cons_self _ _))⟩

theorem enclosed_flatMap {α : Type} {earlier : List Element} {f : α → List Element} : ∀ {parts : List α},
    (∀ a ∈ parts, Enclosed earlier (f a)) → Enclosed earlier (parts.flatMap f) := by
  intro parts
  induction parts with
  | nil => intro _; exact trivial
  | cons a rest ih =>
      intro h
      rw [List.flatMap_cons]
      exact (h a List.mem_cons_self).append (ih fun b hb => h b (List.mem_cons_of_mem _ hb))

/-- What is enclosed is so by an element further to the front. -/
theorem Enclosed.exists_before {e : Element} {after : List Element} {p : String} (hp : e.parent = some p) :
    ∀ {before earlier : List Element}, Enclosed earlier (before ++ e :: after) →
      ∃ d, (d ∈ before ∨ d ∈ earlier) ∧ d.id = p ∧ e.extent.Inside d.extent := by
  intro before
  induction before with
  | nil =>
      intro earlier h
      obtain ⟨d, hd, hin⟩ := h.1 p hp
      exact ⟨d, Or.inr hd, hin⟩
  | cons b rest ih =>
      intro earlier h
      obtain ⟨d, hd, hin⟩ := ih h.2
      refine ⟨d, ?_, hin⟩
      rcases hd with hd | hd
      · exact Or.inl (List.mem_cons_of_mem _ hd)
      · rcases List.mem_cons.mp hd with rfl | hd
        · exact Or.inl List.mem_cons_self
        · exact Or.inr hd

/-- Among `earlier` is an element with the identifier `parent`, if there is one, that covers an extent. -/
def Covered (earlier : List Element) (parent : Option String) (extent : Extent) : Prop :=
  ∀ p, parent = some p → ∃ d ∈ earlier, d.id = p ∧ extent.Inside d.extent

theorem Covered.inside {earlier : List Element} {parent : Option String} {a b : Extent}
    (h : Covered earlier parent b) (hab : a.Inside b) : Covered earlier parent a := by
  intro p hp
  obtain ⟨d, hd, hid, hin⟩ := h p hp
  exact ⟨d, hd, hid, hab.trans hin⟩

theorem Covered.placed {path : String} {earlier : List Element} {parent : Option String} {e : Element}
    (h : Covered earlier parent e.extent) (he : e.Placed path parent) : Covered earlier e.parent e.extent := by
  intro p hp
  refine h p ?_
  rw [he.inside] at hp
  by_cases hkind : e.kind = .dependency
  · rw [if_pos hkind] at hp
    cases hp
  · rw [if_neg hkind] at hp
    exact hp

/-- The stages inside a declaration know it as their parent. -/
theorem parent_of_mem_next {s : Site} {limit : Option Nat} {context : Context} {e : Element}
    {references : List Reference} {body : Option s.Below} {isFunction : Bool} {u : Stage}
    (hu : u ∈ (Finding.scope e references body isFunction).next limit context) : u.context.parent = some e.id := by
  cases body with
  | none => cases hu
  | some b => rw [(mem_entered hu).2]

section

variable {path : String} {rules : CallRules} {source : Source} {read : Reader}

/-- The stages after a finding are enclosed, if what they are in is among the elements before them. -/
theorem GoesOn.enclosed_after {v : Stage} {d : Site} {found : Finding v.site} (h : GoesOn rules source d found)
    (hd : d.node.WellFormed) (hbelow : ∀ u : Stage, d.Under u.site → ∀ earlier,
      Covered earlier u.context.parent u.site.extent → Enclosed earlier (u.extraction read).elements)
    {earlier : List Element}
    (hearlier : ∀ u ∈ found.next v.limit v.context, Covered earlier u.context.parent d.extent) :
    Enclosed earlier (v.elementsAfter read found) := by
  refine enclosed_flatMap ?_
  intro u hu
  have hunder := h.under hu
  exact hbelow u hunder earlier ((hearlier u hu).inside (hunder.inside hd))

/-- A finding and what comes after it are enclosed.  Only a declaration changes what the next stages are in. -/
theorem GoesOn.enclosed {v : Stage} {d : Site} {found : Finding v.site} (h : GoesOn rules source d found)
    (hplaced : found.Placed path v.context) (hdirect : found.isAttached = false) (hd : d.node.WellFormed)
    (hbelow : ∀ u : Stage, d.Under u.site → ∀ earlier,
      Covered earlier u.context.parent u.site.extent → Enclosed earlier (u.extraction read).elements)
    {earlier : List Element} (hearlier : Covered earlier v.context.parent d.extent) :
    Enclosed earlier (found.own (v.elementsAfter read found) ++ v.elementsAfter read found) := by
  have hhere : ∀ u : Stage, u.context = v.context → Covered earlier u.context.parent d.extent := by
    intro u hu
    rw [hu]
    exact hearlier
  cases found with
  | leaf e => cases h
  | scope e references body isFunction =>
      have hcovers : e.extent = d.extent := by cases h <;> assumption
      have he : Covered earlier v.context.parent e.extent := by
        rw [hcovers]
        exact hearlier
      refine ⟨he.placed hplaced.1, h.enclosed_after hd hbelow ?_⟩
      intro u hu p hp
      rw [parent_of_mem_next hu] at hp
      cases hp
      refine ⟨_, List.mem_cons_self, rfl, ?_⟩
      rw [← hcovers]
      exact e.extent.inside_refl
  | attached owner references body => cases hdirect
  | readOn t =>
      refine h.enclosed_after hd hbelow ?_
      intro u hu
      rw [List.mem_singleton.mp hu]
      exact hhere _ rfl
  | inside =>
      refine h.enclosed_after hd hbelow ?_
      intro u hu
      exact hhere u (mem_entered hu).2

/-- **Whoever contains what is declared at a stage and after it comes before it.** -/
theorem Reader.Regular.enclosed (h : read.Regular rules source) (hplaces : read.Places path) (hdirect : read.Direct) :
    ∀ (n : Nat) (v : Stage), v.site.size = n → v.site.node.WellFormed → ∀ earlier : List Element,
      Covered earlier v.context.parent v.site.extent → Enclosed earlier (v.extraction read).elements := by
  intro n
  induction n using Nat.strongRecOn with
  | ind n ih =>
      intro v hn hv earlier hearlier
      rw [Stage.elements_eq]
      refine enclosed_flatMap ?_
      intro found hfound
      have hplaced := hplaces v.context v.site found hfound
      obtain ⟨d, hd, hcases⟩ := h.found_mem v hfound
      obtain ⟨hwell, hinside⟩ := Site.wellFormed_inside_of_here hd hv
      rcases hcases with ⟨e, rfl, hcovers⟩ | hgoes
      · have he : Covered earlier v.context.parent e.extent := by
          rw [hcovers]
          exact hearlier.inside hinside
        exact ⟨he.placed hplaced, trivial⟩
      · refine hgoes.enclosed hplaced (hdirect v.context v.site _ hfound) hwell ?_ (hearlier.inside hinside)
        intro u hunder
        have hlt : u.site.size < n := by
          have hbelow : v.site.Under u.site := by
            rcases hd with rfl | hholds
            · exact hunder
            · exact Site.Under.trans (.child hholds) hunder
          rw [← hn]
          exact hbelow.size_lt
        exact ih _ hlt u rfl (hunder.wellFormed hwell)

theorem Reader.Regular.enclosed_ofTree (h : read.Regular rules source) (hplaces : read.Places path)
    (hdirect : read.Direct) (limit : Option Nat) {tree : Node} (htree : tree.WellFormed) :
    Enclosed [] (extractionAll (ofTree read limit tree)).elements := by
  have hroot : (Site.root tree).node.WellFormed := htree
  unfold ofTree
  rw [elements_walkInside]
  refine enclosed_flatMap ?_
  intro u hu
  obtain ⟨hholds, hcontext⟩ := mem_entered hu
  refine h.enclosed hplaces hdirect _ u rfl (hholds.wellFormed hroot) [] ?_
  intro p hp
  rw [hcontext] at hp
  cases hp

end
end CodeAtlas.Outline

namespace CodeAtlas.Parsing

open CodeAtlas.Graph
open CodeAtlas.Outline
open CodeAtlas.Syntax

/-! ### In files -/

theorem exists_rules {support : Support} (hs : support ∈ allGrammars) :
    ∃ rules, (support, rules) ∈ Language.callRules := by
  have hmem : support ∈ Language.callRules.map Prod.fst := hs
  obtain ⟨⟨_, rules⟩, hpair, rfl⟩ := List.mem_map.mp hmem
  exact ⟨rules, hpair⟩

theorem extract_arranged {support : Support} (hs : support ∈ allGrammars) (limit : Option Nat) (source : Source)
    {tree : Node} (htree : tree.WellFormed) : Arranged tree.extent (support.extract limit source tree).elements := by
  obtain ⟨rules, hrules⟩ := exists_rules hs
  have houtline := (Language.regular_of_mem hrules source).arranged_ofTree limit htree
  unfold Support.extract
  rcases mem_allGrammars.mp hs with hd | rfl
  · rw [(direct_places hd source).2.2]
    exact houtline
  · refine houtline.map ?_
    intro e
    obtain ⟨children, heq⟩ := Language.Rust.linkElement_eq _ e
    rw [heq]
    rfl

theorem extract_enclosed {support : Support} (hs : support ∈ directGrammars) (limit : Option Nat) (source : Source)
    {tree : Node} (htree : tree.WellFormed) : Enclosed [] (support.extract limit source tree).elements := by
  obtain ⟨rules, hrules⟩ := exists_rules (mem_allGrammars.mpr (Or.inl hs))
  obtain ⟨hplaces, hdirect, hid⟩ := direct_places hs source
  unfold Support.extract
  rw [hid]
  exact (Language.regular_of_mem hrules source).enclosed_ofTree hplaces hdirect limit htree

/--
**Elements come in the order of the text**, if the tree is well-formed and in each of
the four languages.  They start one after the other.  Each one covers those that come
later or ends before they start, so that no two extents are entangled.  Where
declarations stand where they belong, an element with a parent is inside an earlier
one that has that identifier.
-/
theorem elements_in_source_order (support : Support) (hs : support ∈ allGrammars) (limit : Option Nat)
    (source : Source) (tree : Node) (htree : tree.WellFormed) :
    ((support.extract limit source tree).elements.Pairwise fun a b => a.extent.start ≤ b.extent.start) ∧
    ((support.extract limit source tree).elements.Pairwise fun a b =>
      b.extent.Inside a.extent ∨ a.extent.Before b.extent) ∧
    (support ∈ directGrammars → ∀ before e after p,
      (support.extract limit source tree).elements = before ++ e :: after → e.parent = some p →
        ∃ d ∈ before, d.id = p ∧ e.extent.Inside d.extent) := by
  have harranged := extract_arranged hs limit source htree
  refine ⟨?_, harranged.ordered, ?_⟩
  · refine harranged.ordered.imp_of_mem ?_
    intro a b ha _ hab
    rcases hab with hinside | hbefore
    · exact hinside.1
    · exact hbefore.start_le (harranged.proper a ha)
  · intro hdirect before e after p heq hp
    have henclosed := extract_enclosed hdirect limit source htree
    rw [heq] at henclosed
    obtain ⟨d, hd, hin⟩ := henclosed.exists_before hp
    rcases hd with hd | hd
    · exact ⟨d, hd, hin⟩
    · cases hd

/-- The tree of `const f = () => { let g = () => 1; }, x = 2;`. -/
def boundFunctions : Node :=
  let l : Line := ⟨0, 0⟩
  .mk "program" true none (l.span 0 44) [
    l.node "lexical_declaration" none 0 44 [
      l.sign "const" 0,
      l.node "variable_declarator" none 6 36 [
        l.node "identifier" (some "name") 6 7 [],
        l.sign "=" 8,
        l.node "arrow_function" (some "value") 10 36 [
          l.node "formal_parameters" (some "parameters") 10 12 [l.sign "(" 10, l.sign ")" 11],
          l.sign "=>" 13,
          l.node "statement_block" (some "body") 16 36 [
            l.sign "\x7b" 16,
            l.node "lexical_declaration" none 18 34 [
              l.sign "let" 18,
              l.node "variable_declarator" none 22 33 [
                l.node "identifier" (some "name") 22 23 [],
                l.sign "=" 24,
                l.node "arrow_function" (some "value") 26 33 [
                  l.node "formal_parameters" (some "parameters") 26 28 [l.sign "(" 26, l.sign ")" 27],
                  l.sign "=>" 29,
                  l.node "number" (some "body") 32 33 []]],
              l.sign ";" 33],
            l.sign "\x7d" 35]]],
      l.sign "," 36,
      l.node "variable_declarator" none 38 43 [
        l.node "identifier" (some "name") 38 39 [],
        l.sign "=" 40,
        l.node "number" (some "value") 42 43 []],
      l.sign ";" 43]]

/-- Functions that are bound to variables cover their declarators, one inside the other. -/
theorem source_order_of_bound_functions :
    let x := Language.javascript.extract (some depthLimit)
      ⟨"a.js", "const f = () => \x7b let g = () => 1; \x7d, x = 2;\n"⟩ boundFunctions
    Language.javascript ∈ allGrammars ∧ Language.javascript ∈ directGrammars ∧ boundFunctions.WellFormed ∧
    x.elements.map (fun e => (e.id, e.extent.start.column, e.extent.stop.column)) =
      [("a.js:f", 6, 36), ("a.js:f:g", 22, 33), ("a.js:x", 38, 43)] ∧
    (x.elements.Pairwise fun a b => b.extent.Inside a.extent ∨ a.extent.Before b.extent) ∧
    ∀ before e after, x.elements = before ++ e :: after → e.parent = some "a.js:f" →
      ∃ d ∈ before, d.id = "a.js:f" ∧ e.extent.Inside d.extent := by
  intro x
  have htree : boundFunctions.WellFormed := by decide +kernel
  have hjavascript : Language.javascript ∈ directGrammars := List.mem_cons_of_mem _ List.mem_cons_self
  have hmem : Language.javascript ∈ allGrammars := List.mem_cons_of_mem _ List.mem_cons_self
  obtain ⟨-, hordered, henclosed⟩ := elements_in_source_order Language.javascript hmem (some depthLimit)
    ⟨"a.js", "const f = () => \x7b let g = () => 1; \x7d, x = 2;\n"⟩ boundFunctions htree
  refine ⟨hmem, hjavascript, htree, by decide +kernel, hordered, ?_⟩
  intro before e after heq hp
  exact henclosed hjavascript before e after _ heq hp

end CodeAtlas.Parsing
