/-
Where two patterns of a language match at the same place.

Hardly ever, since the headers that they describe begin with different words: `def`
and `class`, `fn` and `struct`.  Such patterns are apart, and that can be checked.

Java and C++ are the exception.  A function has no word of its own there, and its pattern
begins with any words at all, among them those that declare a type: `record Point(int x) {`
and `struct Point make() {` are headers for both patterns.  What can be checked is that a
header of a function opens a parenthesis, and opens it before anything that ends the header
of a type.  So both patterns match only where the text does this.

The patterns are given by their texts, which are read before anything is checked.
-/
import CodeAtlas.Proofs.Pattern.Headers
import Mathlib.Data.List.Forall2

namespace CodeAtlas.Pattern

open CodeAtlas.Graph
open CodeAtlas.Regex
open CodeAtlas.Text

/-- The characters that end the header of a type, if no line end does it before. -/
def headerEnds : CharSet :=
  .union (.union (.single '{') (.single ';')) (.single '\n')

/-- A text in which a header ends before any parenthesis. -/
def unopened : Regex :=
  .seq (.star (.chars (.compl (.single '('))) false) (.chars headerEnds)

/-- The text opens a parenthesis, and does so before the first brace or semicolon and in its first line. -/
def Opens (text : List Char) : Prop :=
  ∃ u v, text = u ++ '(' :: v ∧ ∀ c ∈ u, c ≠ '{' ∧ c ≠ ';' ∧ c ≠ '\n'

theorem unopened_matches {before u v : List Char} {c : Char} (hu : '(' ∉ u) (hc : headerEnds.mem c = true) :
    unopened.Matches before (u ++ [c]) v [] := by
  have hmembers : ∀ x ∈ u, (CharSet.compl (.single '(')).mem x = true := by
    intro x hx
    by_contra hmem
    rw [CharSet.mem, Bool.not_eq_true', Bool.not_eq_false] at hmem
    have hfound := CharSet.mem_members? (s := .single '(') rfl hmem
    rw [List.mem_singleton] at hfound
    exact hu (hfound ▸ hx)
  exact .seq (matches_star_chars hmembers before ([c] ++ v)) (.chars hc)

/-- A match of an expression that is apart from `unopened` and cannot do without a parenthesis opens one in time. -/
theorem opens_of_apart {r : Regex} (hapart : Apart r unopened) (hrequires : r.requires '(' = true)
    {before word after : List Char} {groups : Captures} (h : r.Matches before word after groups) :
    Opens (word ++ after) := by
  obtain ⟨u, v, hword, hu⟩ := List.eq_append_cons_of_mem (h.mem_of_requires hrequires)
  refine ⟨u, v ++ after, by rw [hword, List.append_assoc]; rfl, ?_⟩
  have hends : ∀ c ∈ u, ¬headerEnds.mem c = true := by
    intro c hc hmem
    obtain ⟨x, y, rfl⟩ := List.append_of_mem hc
    have hx : '(' ∉ x := fun hx => hu (List.mem_append_left _ hx)
    exact hapart before word (x ++ [c]) after (y ++ '(' :: v ++ after) groups [] (by simp [hword]) h
      (unopened_matches hx hmem)
  intro c hc
  refine ⟨?_, ?_, ?_⟩
  · rintro rfl
    exact hends _ hc rfl
  · rintro rfl
    exact hends _ hc rfl
  · rintro rfl
    exact hends _ hc rfl

/-! ### Checking the patterns of a language -/

/-- The languages where a function and a type can have the same header. -/
def clashingLanguages : List String := ["java", "cpp"]

/-- Whether a pattern for functions and one for types match together only where a parenthesis is opened. -/
def DeclarationPattern.mayClash (p q : DeclarationPattern) : Bool :=
  p.kind == .function && q.kind == .classLike && p.body.requires '(' && isApart p.body unopened

/-- Whether all patterns are anchored ones for functions or types, and no two of them match together, except where a
clash is allowed for. -/
def PatternSet.isChecked (clashes : Bool) (set : PatternSet) : Bool :=
  set.patterns.all (fun p => p.isAnchored && (p.kind == .function || p.kind == .classLike)) &&
    decide (set.patterns.Pairwise fun p q => (clashes && p.mayClash q || isApart p.body q.body) = true)

/-! ### Reading the patterns

A text is taken apart into its characters only once, when it is written as `String.ofList`.
-/

/-- The expression that the characters write. -/
def readChars? (text : List Char) : Option Regex :=
  let (flags, cs) := Reader.flags text
  match Reader.alternatives? flags (4 * cs.length + 4) cs with
  | some (r, []) => some r
  | _ => none

/-- The expression for a header, from the characters of a pattern. -/
def headerOf (pattern : List Char) : Regex :=
  (readChars? ("(?m)^[ \t]*(?P<decl>".toList ++ pattern ++ ")".toList)).getD .never

theorem header_ofList (pattern : List Char) : PatternSet.header (String.ofList pattern) = headerOf pattern := by
  show (readChars? ("(?m)^[ \t]*(?P<decl>" ++ String.ofList pattern ++ ")").toList).getD .never = headerOf pattern
  rw [String.toList_append, String.toList_append, @String.toList_ofList pattern]
  rfl

/-- The patterns of a language, from their characters. -/
def setOf (style : ParameterStyle) (functions types : List (List Char)) : PatternSet where
  style := style
  patterns := functions.map (fun p => ⟨.function, headerOf p⟩) ++ types.map (fun p => ⟨.classLike, headerOf p⟩)

theorem map_header_eq {kind : ElementKind} {texts : List String} {patterns : List (List Char)}
    (h : List.Forall₂ (fun text pattern => text = String.ofList pattern) texts patterns) :
    texts.map (fun p => (⟨kind, PatternSet.header p⟩ : DeclarationPattern)) =
      patterns.map (fun p => ⟨kind, headerOf p⟩) := by
  induction h with
  | nil => rfl
  | cons htext _ ih => rw [List.map_cons, List.map_cons, ih, htext, header_ofList]

theorem make_eq_setOf {style : ParameterStyle} {functions types : List String} {fs ts : List (List Char)}
    (hf : List.Forall₂ (fun text pattern => text = String.ofList pattern) functions fs)
    (ht : List.Forall₂ (fun text pattern => text = String.ofList pattern) types ts) :
    PatternSet.make style functions types = setOf style fs ts := by
  unfold PatternSet.make
  rw [map_header_eq hf, map_header_eq ht]
  rfl

theorem make_isChecked {clashes : Bool} {style : ParameterStyle} {functions types : List String}
    {fs ts : List (List Char)} (hf : List.Forall₂ (fun text pattern => text = String.ofList pattern) functions fs)
    (ht : List.Forall₂ (fun text pattern => text = String.ofList pattern) types ts)
    (h : (setOf style fs ts).isChecked clashes = true) :
    (PatternSet.make style functions types).isChecked clashes = true := by
  rw [make_eq_setOf hf ht]
  exact h

set_option maxRecDepth 4000 in
theorem patternSets_isChecked :
    ∀ entry ∈ patternSets, entry.2.isChecked (clashingLanguages.contains entry.1) = true := by
  have one {a : String} {cs : List Char} (h : a = String.ofList cs) :
      List.Forall₂ (fun text pattern => text = String.ofList pattern) [a] [cs] := .cons h .nil
  have two {a b : String} {cs ds : List Char} (h : a = String.ofList cs) (h' : b = String.ofList ds) :
      List.Forall₂ (fun text pattern => text = String.ofList pattern) [a, b] [cs, ds] := .cons h (one h')
  -- Python
  refine List.forall_mem_cons.mpr ⟨make_isChecked (one rfl) (one rfl) (by decide +kernel), ?_⟩
  -- JavaScript
  refine List.forall_mem_cons.mpr ⟨make_isChecked (two rfl rfl) (one rfl) (by decide +kernel), ?_⟩
  -- TypeScript
  refine List.forall_mem_cons.mpr ⟨make_isChecked (two rfl rfl) (two rfl rfl) (by decide +kernel), ?_⟩
  -- Java
  refine List.forall_mem_cons.mpr ⟨make_isChecked (one rfl) (one rfl) (by decide +kernel), ?_⟩
  -- Go
  refine List.forall_mem_cons.mpr ⟨make_isChecked (one rfl) (one rfl) (by decide +kernel), ?_⟩
  -- Rust
  refine List.forall_mem_cons.mpr ⟨make_isChecked (one rfl) (one rfl) (by decide +kernel), ?_⟩
  -- C
  refine List.forall_mem_cons.mpr ⟨make_isChecked (one rfl) (one rfl) (by decide +kernel), ?_⟩
  -- C++
  refine List.forall_mem_cons.mpr ⟨make_isChecked (one rfl) (one rfl) (by decide +kernel), ?_⟩
  exact List.forall_mem_nil _

/-! ### What the check says -/

variable {language : String} {set : PatternSet}

theorem isChecked_of_patterns? (h : patterns? language = some set) :
    set.isChecked (clashingLanguages.contains language) = true := by
  obtain ⟨l₁, l₂, hsplit, -⟩ := List.lookup_eq_some_iff.mp h
  refine patternSets_isChecked (language, set) ?_
  rw [hsplit]
  exact List.mem_append_right _ List.mem_cons_self

/-- All patterns of a language are anchored, and are for functions or for types. -/
theorem isAnchored_of_mem (h : patterns? language = some set) {p : DeclarationPattern} (hp : p ∈ set.patterns) :
    p.isAnchored = true ∧ (p.kind = .function ∨ p.kind = .classLike) := by
  have hchecked := isChecked_of_patterns? h
  rw [PatternSet.isChecked, Bool.and_eq_true, List.all_eq_true] at hchecked
  have hmem := hchecked.1 p hp
  rw [Bool.and_eq_true, Bool.or_eq_true, beq_iff_eq, beq_iff_eq] at hmem
  exact hmem

/-- A function and a type of a language where they can have the same header, at a text that opens a parenthesis before
the header of a type would end. -/
structure Clash (language : String) (first second : ElementKind) (text : List Char) : Prop where
  language : language ∈ clashingLanguages
  function : first = .function
  type : second = .classLike
  opens : Opens text

/-- **Patterns of a language hardly ever match at the same place**: only where they clash. -/
theorem headers_pairwise (h : patterns? language = some set) (text : List Char) :
    set.patterns.Pairwise fun p q => ∀ (a : Header p text) (b : Header q text),
      a.span.start.offset = b.span.start.offset → Clash language p.kind q.kind a.rest := by
  have hchecked := isChecked_of_patterns? h
  rw [PatternSet.isChecked, Bool.and_eq_true, decide_eq_true_eq] at hchecked
  refine hchecked.2.imp fun {p q} hpq => ?_
  intro a b hstart
  rw [Bool.or_eq_true] at hpq
  rcases hpq with hclash | hapart
  · simp only [DeclarationPattern.mayClash, Bool.and_eq_true, beq_iff_eq, List.contains_iff_mem] at hclash
    obtain ⟨hlanguage, ⟨⟨hp, hq⟩, hrequires⟩, hunopened⟩ := hclash
    exact ⟨hlanguage, hp, hq, opens_of_apart (apart_of_isApart hunopened) hrequires a.body⟩
  · obtain ⟨hlead, hrest⟩ := a.eq_of_start_eq b hstart
    have hb := b.body
    rw [← hlead] at hb
    exact absurd hb (apart_of_isApart hapart _ _ _ _ _ _ _ hrest a.body)

end CodeAtlas.Pattern
