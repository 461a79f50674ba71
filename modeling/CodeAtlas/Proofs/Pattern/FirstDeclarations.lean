/-
The first declaration of each name.

Declarations are gathered pattern by pattern, sorted by where they begin, and only the
first of each identifier is kept.  `Declares` says what there is to gather, and `Before`
in which order it counts: by offsets, and a function before a type where both begin at
the same one.

Functions come first there because their patterns do and sorting keeps the order of
equals.  Nothing else can begin at the same offset, so the order leaves nothing open.
Identifiers stand for names here, as everything that is found is in no other declaration.
-/
import CodeAtlas.Proofs.Lists
import CodeAtlas.Proofs.Pattern.Clashes

namespace CodeAtlas.Pattern

open CodeAtlas.Graph
open CodeAtlas.Regex
open CodeAtlas.Text

/-- The element for a match, given where its header and its name are. -/
def elementAt (source path : String) (style : ParameterStyle) (kind : ElementKind) (m : Match) (header name : Span) :
    Element :=
  { Element.bare (spanText source name) kind path with
    lineStart := header.start.row + 1
    columnStart := header.start.column
    lineEnd := header.stop.row + 1
    columnEnd := header.stop.column
    parameters := (m.group? "params").map fun s => parameterNames style (spanText source s) }

/-- A pattern of the set has a match in the source whose name begins no statement: `d` is the offset of the header and
the element for the match. -/
def Declares (set : PatternSet) (source path : String) (d : Nat × Element) : Prop :=
  ∃ p ∈ set.patterns, ∃ m ∈ p.regex.allMatches source, ∃ header name,
    m.group? "decl" = some header ∧ m.group? "name" = some name ∧ spanText source name ∉ statementWords ∧
      d = (header.start.offset, elementAt source path set.style p.kind m header name)

/-- The order of declarations: by offsets, and a function before a type that begins at the same one. -/
def Before (d e : Nat × Element) : Prop :=
  d.1 < e.1 ∨ d.1 = e.1 ∧ d.2.kind = .function ∧ e.2.kind = .classLike

theorem Before.asymm {d e : Nat × Element} (h : Before d e) : ¬Before e d := by
  rintro (hlt | ⟨heq, -, htype⟩)
  · rcases h with hlt' | ⟨heq', -, -⟩
    · omega
    · omega
  · rcases h with hlt' | ⟨-, hfunction, -⟩
    · omega
    · rw [hfunction] at htype
      cases htype

/-! ### What is gathered -/

variable {set : PatternSet} {source path : String} {style : ParameterStyle} {kind : ElementKind} {m : Match}

theorem declaration?_of_groups {header name : Span} (hheader : m.group? "decl" = some header)
    (hname : m.group? "name" = some name) :
    declaration? source path style kind m = if spanText source name ∈ statementWords then none else
      some (header.start.offset, elementAt source path style kind m header name) := by
  unfold declaration?
  rw [hheader, hname]
  by_cases hword : spanText source name ∈ statementWords
  · exact (if_pos (List.contains_iff_mem.mpr hword)).trans (if_pos hword).symm
  · exact (if_neg (mt List.contains_iff_mem.mp hword)).trans (if_neg hword).symm

theorem declaration?_eq_some_iff {d : Nat × Element} :
    declaration? source path style kind m = some d ↔ ∃ header name,
      m.group? "decl" = some header ∧ m.group? "name" = some name ∧ spanText source name ∉ statementWords ∧
        d = (header.start.offset, elementAt source path style kind m header name) := by
  constructor
  · intro h
    cases hheader : m.group? "decl" with
    | none => simp [declaration?, hheader] at h
    | some header =>
        cases hname : m.group? "name" with
        | none => simp [declaration?, hheader, hname] at h
        | some name =>
            rw [declaration?_of_groups hheader hname] at h
            split at h
            · cases h
            · next hword => exact ⟨header, name, rfl, rfl, hword, (Option.some.inj h).symm⟩
  · rintro ⟨header, name, hheader, hname, hword, rfl⟩
    rw [declaration?_of_groups hheader hname, if_neg hword]

theorem mem_candidates {d : Nat × Element} : d ∈ candidates set source path ↔ Declares set source path d := by
  unfold candidates Declares
  simp only [List.mem_flatMap, List.mem_filterMap, declaration?_eq_some_iff]

/-- What a match declares is found at its header, under a name from there. -/
theorem exists_header_of_declaration? {p : DeclarationPattern} (hp : p.isAnchored = true)
    (hm : m ∈ p.regex.allMatches source) {d : Nat × Element}
    (hd : declaration? source path style p.kind m = some d) :
    ∃ (h : Header p source.toList) (name : Span), m.captures = h.captures ∧
      Covers (h.before ++ h.blanks) h.word name ∧
      d = (h.span.start.offset, elementAt source path style p.kind m h.span name) := by
  obtain ⟨h, hcaptures⟩ := exists_header_of_mem hp hm
  obtain ⟨name, hname, hcovers⟩ := h.exists_name hp
  obtain ⟨header, name', hheader, hname', -, rfl⟩ := declaration?_eq_some_iff.mp hd
  rw [Match.group?, hcaptures, h.lookup_decl] at hheader
  rw [Match.group?, hcaptures, hname] at hname'
  cases hheader
  cases hname'
  exact ⟨h, name, hcaptures, hcovers, rfl⟩

/-! ### The order -/

/-- The kinds clash at an offset of the source. -/
def ClashAt (language : String) (source : String) (offset : Nat) (first second : ElementKind) : Prop :=
  ∃ u v, source.toList = u ++ v ∧ (Place.after u).offset = offset ∧ Clash language first second v

variable {language : String}

/-- Of what is gathered, only a function and then a type can begin at the same offset, and only where they clash. -/
theorem candidates_pairwise (hset : patterns? language = some set) (source path : String) :
    (candidates set source path).Pairwise fun d e =>
      d.1 = e.1 → ClashAt language source d.1 d.2.kind e.2.kind := by
  unfold candidates
  rw [List.pairwise_flatMap]
  constructor
  · -- Matches of one pattern do not overlap, and headers are not empty.
    intro p hp
    obtain ⟨hanchored, -⟩ := isAnchored_of_mem hset hp
    rw [List.pairwise_filterMap]
    refine (allMatches_sound p.regex source).2.imp_of_mem fun {m n} hm hn hprecedes => ?_
    intro d hd e he heq
    obtain ⟨h, hname, hcaptures, -, rfl⟩ := exists_header_of_declaration? hanchored hm hd
    obtain ⟨k, kname, kcaptures, -, rfl⟩ := exists_header_of_declaration? hanchored hn he
    have hstop : h.span.stop.offset ≤ k.span.start.offset := by
      refine hprecedes ("decl", h.span) ?_ ("decl", k.span) ?_
      · rw [hcaptures]
        exact List.mem_cons_self
      · rw [kcaptures]
        exact List.mem_cons_self
    have hstart : h.span.start.offset < k.span.start.offset := Nat.lt_of_lt_of_le (h.start_lt_stop hanchored) hstop
    exact absurd heq (Nat.ne_of_lt hstart)
  · refine (headers_pairwise hset source.toList).imp_of_mem fun {p q} hp hq hclash => ?_
    intro d hd e he heq
    obtain ⟨m, hm, hd⟩ := List.mem_filterMap.mp hd
    obtain ⟨n, hn, he⟩ := List.mem_filterMap.mp he
    obtain ⟨h, hname, -, -, rfl⟩ := exists_header_of_declaration? (isAnchored_of_mem hset hp).1 hm hd
    obtain ⟨k, kname, -, -, rfl⟩ := exists_header_of_declaration? (isAnchored_of_mem hset hq).1 hn he
    exact ⟨_, _, h.text_eq_append, rfl, hclash h k heq⟩

/-- What is gathered and sorted is in order. -/
theorem found_pairwise (hset : patterns? language = some set) (source path : String) :
    ((candidates set source path).mergeSort fun a b => a.1 ≤ b.1).Pairwise Before := by
  have htrans : ∀ a b c : Nat × Element, decide (a.1 ≤ b.1) = true → decide (b.1 ≤ c.1) = true →
      decide (a.1 ≤ c.1) = true := by
    intro a b c hab hbc
    rw [decide_eq_true_eq] at *
    omega
  have htotal : ∀ a b : Nat × Element, (decide (a.1 ≤ b.1) || decide (b.1 ≤ a.1)) = true := by
    intro a b
    rw [Bool.or_eq_true, decide_eq_true_eq, decide_eq_true_eq]
    omega
  have hsorted := List.pairwise_mergeSort htrans htotal (candidates set source path)
  have hties := Lists.pairwise_mergeSort_of_pairwise htrans htotal (candidates_pairwise hset source path)
  refine (hsorted.and hties).imp fun {d e} h => ?_
  obtain ⟨hle, htie⟩ := h
  rw [decide_eq_true_eq] at hle htie
  rcases Nat.lt_or_eq_of_le hle with hlt | heq
  · exact Or.inl hlt
  · obtain ⟨u, v, -, -, hclash⟩ := htie (Nat.le_of_eq heq.symm) heq
    exact Or.inr ⟨heq, hclash.function, hclash.type⟩

/-! ### What is kept -/

/-- Of what was found, `kept` has the first of each identifier. -/
structure Firsts (found kept : List (Nat × Element)) : Prop where
  sublist : kept.Sublist found
  distinct : (kept.map (·.2.id)).Nodup
  complete : ∀ x ∈ found, ∃ d ∈ kept, d.2.id = x.2.id
  first : ∀ d ∈ kept, ∀ x ∈ found, x.2.id = d.2.id → x = d ∨ Before d x

theorem firsts_nil : Firsts [] [] where
  sublist := .slnil
  distinct := List.nodup_nil
  complete := fun _ hx => absurd hx List.not_mem_nil
  first := fun _ hd => absurd hd List.not_mem_nil

namespace Firsts

variable {found kept : List (Nat × Element)} {e : Nat × Element}

/-- One more, with an identifier that is there already. -/
theorem skip (h : Firsts found kept) (hlast : ∀ x ∈ found, Before x e) (hold : ∃ d ∈ kept, d.2.id = e.2.id) :
    Firsts (found ++ [e]) kept where
  sublist := h.sublist.trans (List.sublist_append_left _ _)
  distinct := h.distinct
  complete := List.forall_mem_append.mpr ⟨h.complete, List.forall_mem_singleton.mpr hold⟩
  first := by
    intro d hd
    refine List.forall_mem_append.mpr ⟨h.first d hd, List.forall_mem_singleton.mpr fun _ => ?_⟩
    exact Or.inr (hlast d (h.sublist.mem hd))

/-- One more, with an identifier of its own. -/
theorem keep (h : Firsts found kept) (hlast : ∀ x ∈ found, Before x e) (hnew : ∀ d ∈ kept, d.2.id ≠ e.2.id) :
    Firsts (found ++ [e]) (kept ++ [e]) where
  sublist := h.sublist.append_right _
  distinct := by
    rw [List.map_append]
    refine List.nodup_append.mpr ⟨h.distinct, List.pairwise_singleton _ _, ?_⟩
    intro id hid id' hid'
    obtain ⟨d, hd, rfl⟩ := List.mem_map.mp hid
    rw [List.mem_singleton.mp hid']
    exact hnew d hd
  complete := by
    refine List.forall_mem_append.mpr ⟨fun x hx => ?_, List.forall_mem_singleton.mpr ?_⟩
    · obtain ⟨d, hd, hid⟩ := h.complete x hx
      exact ⟨d, List.mem_append_left _ hd, hid⟩
    · exact ⟨e, List.mem_append_right _ List.mem_cons_self, rfl⟩
  first := by
    refine List.forall_mem_append.mpr ⟨fun d hd => ?_, List.forall_mem_singleton.mpr ?_⟩
    · refine List.forall_mem_append.mpr ⟨h.first d hd, List.forall_mem_singleton.mpr fun _ => ?_⟩
      exact Or.inr (hlast d (h.sublist.mem hd))
    · refine List.forall_mem_append.mpr ⟨fun x hx hid => ?_, List.forall_mem_singleton.mpr fun _ => Or.inl rfl⟩
      obtain ⟨d, hd, hdx⟩ := h.complete x hx
      exact absurd (hdx.trans hid) (hnew d hd)

/-- **The loop keeps the first of each identifier**, if it meets everything in order. -/
theorem foldl {more : List (Nat × Element)} (h : Firsts found kept) (horder : (found ++ more).Pairwise Before) :
    ∃ kept', kept'.map Prod.snd = (more.map Prod.snd).foldl
        (fun kept e => if kept.any (·.id == e.id) then kept else kept ++ [e]) (kept.map Prod.snd) ∧
      Firsts (found ++ more) kept' := by
  induction more generalizing found kept with
  | nil =>
      rw [List.append_nil]
      exact ⟨kept, rfl, h⟩
  | cons e more ih =>
      have hsplit : found ++ e :: more = (found ++ [e]) ++ more := List.append_cons found e more
      have hlast : ∀ x ∈ found, Before x e :=
        fun x hx => (List.pairwise_append.mp horder).2.2 x hx e List.mem_cons_self
      rw [hsplit] at horder ⊢
      rw [List.map_cons, List.foldl_cons]
      by_cases hold : ∃ d ∈ kept, d.2.id = e.2.id
      · have hany : (kept.map Prod.snd).any (·.id == e.2.id) = true := by simpa using hold
        rw [if_pos hany]
        exact ih (h.skip hlast hold) horder
      · have hany : ¬(kept.map Prod.snd).any (·.id == e.2.id) = true := by simpa using hold
        have hkept := ih (h.keep hlast fun d hd hid => hold ⟨d, hd, hid⟩) horder
        rw [List.map_append] at hkept
        rw [if_neg hany]
        exact hkept

/-- What is kept is what comes before everything else with its identifier. -/
theorem mem_iff (h : Firsts found kept) {d : Nat × Element} :
    d ∈ kept ↔ d ∈ found ∧ ∀ x ∈ found, x.2.id = d.2.id → x = d ∨ Before d x := by
  constructor
  · intro hd
    exact ⟨h.sublist.mem hd, h.first d hd⟩
  · rintro ⟨hd, hfirst⟩
    obtain ⟨x, hx, hid⟩ := h.complete d hd
    rcases hfirst x (h.sublist.mem hx) hid with rfl | hbefore
    · exact hx
    · rcases h.first x hx d hd hid.symm with rfl | hafter
      · exact hx
      · exact absurd hafter hbefore.asymm

end Firsts

/-! ### Names -/

theorem Declares.name_not_mem {d : Nat × Element} (h : Declares set source path d) : d.2.name ∉ statementWords := by
  obtain ⟨p, -, m, -, header, name, -, -, hword, rfl⟩ := h
  exact hword

theorem Declares.id_eq (hset : patterns? language = some set) {d : Nat × Element} (h : Declares set source path d) :
    d.2.id = path ++ ":" ++ d.2.name := by
  obtain ⟨p, hp, m, -, header, name, -, -, -, rfl⟩ := h
  unfold Element.id elementAt Element.bare
  rcases (isAnchored_of_mem hset hp).2 with hkind | hkind
  · rw [hkind]
    rfl
  · rw [hkind]
    rfl

/-- Declarations have the same identifier if they have the same name. -/
theorem Declares.id_eq_iff (hset : patterns? language = some set) {d e : Nat × Element}
    (hd : Declares set source path d) (he : Declares set source path e) : d.2.id = e.2.id ↔ d.2.name = e.2.name := by
  rw [hd.id_eq hset, he.id_eq hset]
  exact String.append_right_inj _

/-- Every match has a header and a name. -/
theorem exists_groups (hset : patterns? language = some set) {p : DeclarationPattern} (hp : p ∈ set.patterns)
    (hm : m ∈ p.regex.allMatches source) :
    ∃ header name, m.group? "decl" = some header ∧ m.group? "name" = some name := by
  obtain ⟨hanchored, -⟩ := isAnchored_of_mem hset hp
  obtain ⟨h, hcaptures⟩ := exists_header_of_mem hanchored hm
  obtain ⟨name, hname, -⟩ := h.exists_name hanchored
  refine ⟨h.span, name, ?_, ?_⟩
  · rw [Match.group?, hcaptures, h.lookup_decl]
  · rw [Match.group?, hcaptures, hname]

theorem extract_eq (hset : patterns? language = some set) (source path : String) :
    extract source language path =
      ⟨firstOfEachId (((candidates set source path).mergeSort fun a b => a.1 ≤ b.1).map Prod.snd), [], []⟩ := by
  unfold extract
  rw [hset]

/-- What is gathered in order need not be sorted. -/
theorem extract_of_sorted (hset : patterns? language = some set) {found : List (Nat × Element)}
    (hfound : candidates set source path = found) (hsorted : found.Pairwise fun a b => a.1 ≤ b.1) :
    extract source language path = ⟨firstOfEachId (found.map Prod.snd), [], []⟩ := by
  have hsame := List.mergeSort_of_pairwise (hsorted.imp fun h => decide_eq_true h)
  rw [extract_eq hset, hfound, hsame]

theorem exists_firsts (hset : patterns? language = some set) (source path : String) :
    ∃ kept, extract source language path = ⟨kept.map Prod.snd, [], []⟩ ∧
      Firsts ((candidates set source path).mergeSort fun a b => a.1 ≤ b.1) kept := by
  obtain ⟨kept, hkept, hfirsts⟩ := firsts_nil.foldl (found_pairwise hset source path)
  refine ⟨kept, ?_, hfirsts⟩
  rw [extract_eq hset, hkept]
  rfl

/-- Everything in the result is declared. -/
theorem declares_of_mem (hset : patterns? language = some set) {e : Element}
    (he : e ∈ (extract source language path).elements) : ∃ offset, Declares set source path (offset, e) := by
  obtain ⟨kept, hextract, hfirsts⟩ := exists_firsts hset source path
  rw [hextract] at he
  obtain ⟨d, hd, rfl⟩ := List.mem_map.mp he
  exact ⟨d.1, mem_candidates.mp (List.mem_mergeSort.mp (hfirsts.sublist.mem hd))⟩

/-- What remains of the declarations in a text if only the first of each name counts. -/
structure FirstOfEachName (set : PatternSet) (source path : String) (kept : List (Nat × Element)) : Prop where
  order : kept.Pairwise Before
  /-- What is kept comes before everything else that is declared under its name. -/
  mem_iff : ∀ d, d ∈ kept ↔ Declares set source path d ∧
    ∀ x, Declares set source path x → x.2.name = d.2.name → x = d ∨ Before d x
  distinct : (kept.map (·.2.id)).Nodup
  not_statement : ∀ d ∈ kept, d.2.name ∉ statementWords
  not_nested : ∀ d ∈ kept, d.2.parent = none ∧ d.2.children = none
  /-- Every match has a name, and if this does not begin a statement, it is among those that are kept. -/
  complete : ∀ p ∈ set.patterns, ∀ m ∈ p.regex.allMatches source, ∃ header name,
    m.group? "decl" = some header ∧ m.group? "name" = some name ∧
      (spanText source name ∉ statementWords → ∃ d ∈ kept, d.2.name = spanText source name)
  /-- There are matches wherever the patterns fit: if not at a header, then from an earlier line into it. -/
  exhaustive : ∀ p ∈ set.patterns, ∀ h : Header p source.toList, ∃ m ∈ p.regex.allMatches source,
    ∃ k : Header p source.toList, m.captures = k.captures ∧
      (Place.after k.before).offset ≤ (Place.after h.before).offset ∧
      (Place.after h.before).offset < k.span.stop.offset

/-- **Patterns keep the first declaration of each name**, in the order of declarations, and nothing else. -/
theorem extract_first_of_each_name (hset : patterns? language = some set) (source path : String) :
    ∃ kept, extract source language path = ⟨kept.map Prod.snd, [], []⟩ ∧ FirstOfEachName set source path kept := by
  obtain ⟨kept, hextract, hfirsts⟩ := exists_firsts hset source path
  have hfound : ∀ d, d ∈ (candidates set source path).mergeSort (fun a b => a.1 ≤ b.1) ↔ Declares set source path d :=
    fun d => List.mem_mergeSort.trans mem_candidates
  have hdeclared : ∀ d ∈ kept, Declares set source path d := fun d hd => (hfound d).mp (hfirsts.sublist.mem hd)
  refine ⟨kept, hextract, (found_pairwise hset source path).sublist hfirsts.sublist, ?_, hfirsts.distinct,
    fun d hd => (hdeclared d hd).name_not_mem, ?_, ?_, fun p hp h => h.exists_found (isAnchored_of_mem hset hp).1⟩
  · intro d
    rw [hfirsts.mem_iff, hfound]
    refine and_congr_right fun hd => forall_congr' fun x => ?_
    rw [hfound]
    refine forall_congr' fun hx => ?_
    rw [hx.id_eq_iff hset hd]
  · intro d hd
    obtain ⟨p, -, m, -, header, name, -, -, -, rfl⟩ := hdeclared d hd
    exact ⟨rfl, rfl⟩
  · intro p hp m hm
    obtain ⟨header, name, hheader, hname⟩ := exists_groups hset hp hm
    refine ⟨header, name, hheader, hname, fun hword => ?_⟩
    have hx : Declares set source path _ := ⟨p, hp, m, hm, header, name, hheader, hname, hword, rfl⟩
    obtain ⟨d, hd, hid⟩ := hfirsts.complete _ ((hfound _).mpr hx)
    exact ⟨d, hd, ((hdeclared d hd).id_eq_iff hset hx).mp hid⟩

/-- A declaration of one line. -/
def inLine (name : String) (kind : ElementKind) (path : String) (line stop : Nat)
    (parameters : Option (List String)) : Element :=
  { Element.bare name kind path with
    lineStart := line, lineEnd := line, columnEnd := stop, parameters := parameters }

set_option maxRecDepth 4000 in
/-- A function and a type with the same header, a statement, and another function of the same name. -/
theorem extract_first_of_each_name_cpp :
    ∃ set kept, patterns? "cpp" = some set ∧
      extract "struct A f() \x7b\n\x7d\nelse if (x) \x7b\nint f() \x7b\n" "cpp" "a.cpp" = ⟨kept.map Prod.snd, [], []⟩ ∧
      FirstOfEachName set "struct A f() \x7b\n\x7d\nelse if (x) \x7b\nint f() \x7b\n" "a.cpp" kept ∧
      kept.map (·.2.name) = ["f", "A"] := by
  obtain ⟨set, hset, hfound⟩ : ∃ set, patterns? "cpp" = some set ∧
      candidates set "struct A f() \x7b\n\x7d\nelse if (x) \x7b\nint f() \x7b\n" "a.cpp" =
        [(0, inLine "f" .function "a.cpp" 1 14 (some [])), (31, inLine "f" .function "a.cpp" 4 9 (some [])),
          (0, inLine "A" .classLike "a.cpp" 1 14 none)] := by
    refine ⟨_, rfl, ?_⟩
    rw [make_eq_setOf (.cons rfl .nil) (.cons rfl .nil)]
    decide +kernel
  obtain ⟨kept, hextract, hkept⟩ :=
    extract_first_of_each_name hset "struct A f() \x7b\n\x7d\nelse if (x) \x7b\nint f() \x7b\n" "a.cpp"
  refine ⟨set, kept, hset, hextract, hkept, ?_⟩
  rw [extract_eq hset, hfound, Extraction.mk.injEq] at hextract
  have hnames : kept.map (·.2.name) = (kept.map Prod.snd).map (·.name) := List.map_map.symm
  have hsorted : ∀ a b c : Element,
      [(0, a), (31, b), (0, c)].mergeSort (fun x y => x.1 ≤ y.1) = [(0, a), (0, c), (31, b)] := by
    simp [List.mergeSort, List.MergeSort.Internal.splitInTwo]
  rw [hnames, ← hextract.1, hsorted]
  decide

end CodeAtlas.Pattern
