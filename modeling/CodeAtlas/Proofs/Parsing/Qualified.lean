/-
Identifiers begin with the path of their file.

However deep a declaration stands, its identifier is made by adding colons and names
to that of the declaration around it, and the outermost one adds them to the path.
So every identifier of a file is the path, a colon and something more; this is what
`Qualified` says.

That would keep the files of a repository apart if the path could be told from the
rest.  It cannot, as a path may itself have colons.  What is true is
`eq_or_qualified`: two paths that qualify the same identifier are equal, or one of
them qualifies the other.
-/
import CodeAtlas.Proofs.Parsing.Extraction

namespace CodeAtlas.Graph

/-- The text `id` begins with a path and a colon. -/
def Qualified (path id : String) : Prop :=
  ∃ rest, id = path ++ ":" ++ rest

theorem qualified_iff {path id : String} : Qualified path id ↔ (path ++ ":").toList <+: id.toList := by
  constructor
  · rintro ⟨rest, rfl⟩
    exact ⟨rest.toList, by simp⟩
  · rintro ⟨rest, hrest⟩
    exact ⟨String.ofList rest, String.toList_inj.mp (by rw [← hrest]; simp)⟩

instance (path id : String) : Decidable (Qualified path id) :=
  decidable_of_iff _ qualified_iff.symm

theorem qualified_self (path name : String) : Qualified path (path ++ ":" ++ name) :=
  ⟨name, rfl⟩

theorem Qualified.member {path id : String} (h : Qualified path id) (name : String) :
    Qualified path (id ++ ":" ++ name) := by
  obtain ⟨rest, rfl⟩ := h
  exact ⟨rest ++ ":" ++ name, by simp only [String.append_assoc]⟩

/-- **Two paths that qualify one identifier are equal, or one is the beginning of the other up to a colon.** -/
theorem eq_or_qualified {p q id : String} (hp : Qualified p id) (hq : Qualified q id) :
    p = q ∨ Qualified p q ∨ Qualified q p := by
  -- Of two beginnings of the same text the longer one goes on where the shorter one has its colon.
  have hlonger : ∀ {a b r s : String} {t : List Char}, b.toList = a.toList ++ t →
      ':' :: r.toList = t ++ ':' :: s.toList → a = b ∨ Qualified a b := by
    intro a b r s t hb ht
    cases t with
    | nil =>
        rw [List.append_nil] at hb
        exact Or.inl (String.toList_inj.mp hb.symm)
    | cons c rest =>
        rw [List.cons_append, List.cons.injEq] at ht
        refine Or.inr ⟨String.ofList rest, String.toList_inj.mp ?_⟩
        rw [hb, ← ht.1]
        simp
  obtain ⟨r, hr⟩ := hp
  obtain ⟨s, hs⟩ := hq
  have heq : p.toList ++ ':' :: r.toList = q.toList ++ ':' :: s.toList := by
    have := congrArg String.toList (hr.symm.trans hs)
    simpa using this
  rcases List.append_eq_append_iff.mp heq with ⟨t, hq, ht⟩ | ⟨t, hp, ht⟩
  · rcases hlonger hq ht with h | h
    · exact Or.inl h
    · exact Or.inr (Or.inl h)
  · rcases hlonger hp ht with h | h
    · exact Or.inl h.symm
    · exact Or.inr (Or.inr h)

/-- The elements of the extraction belong to the file `path`, and their identifiers show it. -/
def Extraction.Owned (path : String) (x : Extraction) : Prop :=
  ∀ e ∈ x.elements, e.filePath = path ∧ Qualified path e.id

/-- The relationships and references of the extraction start in the file `path`. -/
structure Extraction.StartsIn (path : String) (x : Extraction) : Prop where
  source : ∀ r ∈ x.relationships, Qualified path r.source
  referring : ∀ r ∈ x.references, Qualified path r.source

theorem Extraction.startsIn_append {path : String} {a b : Extraction} (ha : a.StartsIn path) (hb : b.StartsIn path) :
    (a ++ b).StartsIn path :=
  ⟨List.forall_mem_append.mpr ⟨ha.source, hb.source⟩, List.forall_mem_append.mpr ⟨ha.referring, hb.referring⟩⟩

theorem Extraction.startsIn_references {path id : String} (h : Qualified path id) {references : List Reference}
    (hrefs : ∀ r ∈ references, r.source = id) : StartsIn path ⟨[], [], references⟩ := by
  refine ⟨fun r hr => absurd hr List.not_mem_nil, ?_⟩
  intro r hr
  rw [hrefs r hr]
  exact h

end CodeAtlas.Graph

namespace CodeAtlas.Outline

open CodeAtlas.Graph

/-! ### In outlines -/

theorem qualified_of_none {path : String} : ∀ q, (none : Option String) = some q → Qualified path q := by
  intro q hq
  cases hq

theorem qualified_memberId {path : String} {parent : Option String}
    (h : ∀ q, parent = some q → Qualified path q) (name : String) : Qualified path (memberId path parent name) := by
  cases parent with
  | none => exact qualified_self path name
  | some q => exact (h q rfl).member name

theorem qualified_of_placed {path : String} {parent : Option String} {e : Element}
    (he : e.Placed path parent) (h : ∀ q, parent = some q → Qualified path q) : Qualified path e.id := by
  by_cases hk : e.kind = .dependency
  · refine ⟨"import:" ++ e.name, ?_⟩
    unfold Element.id
    rw [hk, he.file]
    simp only [String.append_assoc]
    rfl
  · have hid : e.id = memberId path parent e.name := by
      have hinside := he.inside
      rw [if_neg hk] at hinside
      unfold Element.id memberId
      rw [hinside, he.file]
      cases hkind : e.kind <;> first | rfl | exact absurd hkind hk
    rw [hid]
    exact qualified_memberId h e.name

theorem owned_extractionAll {path : String} {parts : List Outline}
    (h : ∀ part ∈ parts, part.extraction.Owned path) : (extractionAll parts).Owned path := by
  refine extractionAll_induction ?_ ?_ parts h
  · intro e he
    cases he
  · intro a b ha hb e he
    rcases List.mem_append.mp he with he | he
    · exact ha e he
    · exact hb e he

theorem Placed.owned {path : String} {parent : Option String} {o : Outline} (h : Placed path parent o) :
    (∀ q, parent = some q → Qualified path q) → o.extraction.Owned path := by
  induction h with
  | leaf he =>
      intro hparent e hmem
      rw [List.mem_singleton.mp hmem]
      exact ⟨he.file, qualified_of_placed he hparent⟩
  | scope he hkind hrefs hparts ih =>
      intro hparent
      have hid := qualified_of_placed he hparent
      have hbody := owned_extractionAll fun part hp => ih part hp fun q hq => Option.some.inj hq ▸ hid
      intro e hmem
      rcases List.mem_cons.mp hmem with rfl | hmem
      · exact ⟨he.file, hid⟩
      · exact hbody e hmem
  | attached howner hrefs hparts ih =>
      intro hparent
      obtain ⟨name, rfl⟩ := howner
      have hid := qualified_memberId hparent name
      exact owned_extractionAll fun part hp => ih part hp fun q hq => Option.some.inj hq ▸ hid

theorem startsIn_extractionAll {path : String} {parts : List Outline}
    (h : ∀ part ∈ parts, part.extraction.StartsIn path) : (extractionAll parts).StartsIn path := by
  refine extractionAll_induction ?_ (fun _ _ => Extraction.startsIn_append) parts h
  exact ⟨by simp [Extraction.empty], by simp [Extraction.empty]⟩

/-- What is read inside a declaration of the file starts in the file. -/
theorem startsIn_body {path id : String} (hid : Qualified path id) {references : List Reference}
    (hrefs : ∀ r ∈ references, r.source = id) {parts : List Outline}
    (hparts : ∀ part ∈ parts, part.extraction.StartsIn path) :
    (⟨[], [], references⟩ ++ extractionAll parts : Extraction).StartsIn path :=
  Extraction.startsIn_append (Extraction.startsIn_references hid hrefs) (startsIn_extractionAll hparts)

theorem Placed.startsIn {path : String} {parent : Option String} {o : Outline} (h : Placed path parent o) :
    (∀ q, parent = some q → Qualified path q) → o.extraction.StartsIn path := by
  induction h with
  | leaf he =>
      intro _
      exact ⟨by simp [extraction], by simp [extraction]⟩
  | scope he hkind hrefs hparts ih =>
      intro hparent
      have hid := qualified_of_placed he hparent
      have hbody := startsIn_body hid hrefs fun part hp => ih part hp fun q hq => Option.some.inj hq ▸ hid
      refine ⟨List.forall_mem_append.mpr ⟨?_, hbody.source⟩, hbody.referring⟩
      intro r hr
      obtain ⟨c, -, rfl⟩ := List.mem_map.mp hr
      exact hid
  | attached howner hrefs hparts ih =>
      intro hparent
      obtain ⟨name, rfl⟩ := howner
      have hid := qualified_memberId hparent name
      have hbody := startsIn_body hid hrefs fun part hp => ih part hp fun q hq => Option.some.inj hq ▸ hid
      refine ⟨List.forall_mem_append.mpr ⟨?_, hbody.source⟩, hbody.referring⟩
      intro r hr
      obtain ⟨d, -, rfl⟩ := List.mem_map.mp hr
      exact hid

theorem ofTree_owned {path : String} {read : Reader} (h : read.Places path) (limit : Option Nat)
    (tree : Syntax.Node) : (extractionAll (ofTree read limit tree)).Owned path :=
  owned_extractionAll fun part hpart => (ofTree_placed h limit tree part hpart).owned qualified_of_none

theorem ofTree_startsIn {path : String} {read : Reader} (h : read.Places path) (limit : Option Nat)
    (tree : Syntax.Node) : (extractionAll (ofTree read limit tree)).StartsIn path :=
  startsIn_extractionAll fun part hpart => (ofTree_placed h limit tree part hpart).startsIn qualified_of_none

end CodeAtlas.Outline

namespace CodeAtlas.Parsing

open CodeAtlas.Graph
open CodeAtlas.Outline

/-! ### In files -/

theorem ByGrammar.owned {path : String} {x : Extraction} (h : ByGrammar allGrammars path x) : x.Owned path := by
  obtain ⟨support, hs, limit, text, tree, rfl⟩ := h
  unfold Support.extract
  rcases mem_allGrammars.mp hs with hd | rfl
  · obtain ⟨hplaces, -, hid⟩ := direct_places hd ⟨path, text⟩
    rw [hid]
    exact ofTree_owned hplaces limit tree
  · intro e he
    obtain ⟨d, hd, rfl⟩ := Language.Rust.mem_linkMembers.mp he
    rw [Language.Rust.linkElement_filePath, Language.Rust.linkElement_id]
    exact ofTree_owned (Language.Rust.read_placed ⟨path, text⟩) limit tree d hd

theorem ByGrammar.startsIn {path : String} {x : Extraction} (h : ByGrammar allGrammars path x) : x.StartsIn path := by
  obtain ⟨support, hs, limit, text, tree, rfl⟩ := h
  unfold Support.extract
  rcases mem_allGrammars.mp hs with hd | rfl
  · obtain ⟨hplaces, -, hid⟩ := direct_places hd ⟨path, text⟩
    rw [hid]
    exact ofTree_startsIn hplaces limit tree
  · -- Linking members changes elements only.
    have hstarts := ofTree_startsIn (Language.Rust.read_placed ⟨path, text⟩) limit tree
    exact ⟨hstarts.source, hstarts.referring⟩

theorem mem_of_mem_firstOfEachId {e : Element} : ∀ {elements kept : List Element},
    e ∈ elements.foldl (fun kept e => if kept.any (·.id == e.id) then kept else kept ++ [e]) kept →
      e ∈ kept ∨ e ∈ elements := by
  intro elements
  induction elements with
  | nil => intro kept h; exact Or.inl h
  | cons d rest ih =>
      intro kept h
      rw [List.foldl_cons] at h
      rcases ih h with hk | hr
      · by_cases hany : kept.any (·.id == d.id) = true
        · rw [if_pos hany] at hk
          exact Or.inl hk
        · rw [if_neg hany] at hk
          rcases List.mem_append.mp hk with hk | hd
          · exact Or.inl hk
          · rw [List.mem_singleton.mp hd]
            exact Or.inr List.mem_cons_self
      · exact Or.inr (List.mem_cons_of_mem _ hr)

/-- A declaration found by patterns stands in no other one. -/
theorem declaration?_placed {source path : String} {style : Pattern.ParameterStyle} {kind : ElementKind}
    {m : Regex.Match} {found : Nat × Element} (h : Pattern.declaration? source path style kind m = some found) :
    found.2.Placed path none := by
  unfold Pattern.declaration? at h
  simp only [] at h
  split at h
  · split at h
    · cases h
    · cases h
      exact ⟨rfl, rfl, (ite_self none).symm⟩
  · cases h

theorem ByPatterns.owned {path : String} {x : Extraction} (h : ByPatterns path x) : x.Owned path := by
  obtain ⟨text, language, rfl⟩ := h
  intro e he
  unfold Pattern.extract at he
  cases hset : Pattern.patterns? language with
  | none => simp [hset, Extraction.empty] at he
  | some set =>
      rw [hset] at he
      rcases mem_of_mem_firstOfEachId he with hnil | hfound
      · cases hnil
      · obtain ⟨found, hsorted, rfl⟩ := List.mem_map.mp hfound
        obtain ⟨pattern, -, hmatch⟩ := List.mem_flatMap.mp (List.mem_mergeSort.mp hsorted)
        obtain ⟨m, -, hm⟩ := List.mem_filterMap.mp hmatch
        have hplaced := declaration?_placed hm
        exact ⟨hplaced.file, qualified_of_placed hplaced qualified_of_none⟩

/-! ### In what a parser returns -/

theorem Parser.run_owned {p : Parser} (h : p.ReadsKnown) (language : String) (source : Source) :
    (p.run language source).1.Owned source.path := by
  rcases p.run_origin h language source with hgrammar | hpatterns
  · exact hgrammar.owned
  · exact hpatterns.owned

end CodeAtlas.Parsing
