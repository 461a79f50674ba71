/-
Where declarations are found.

An element that a pattern finds has the lines and columns of the header that was
matched.  Whoever has the bytes of the source gets the header back from them: a line
begins at the start of the source or after a line feed, and a column counts bytes from
there.  `HeaderAt` says what is found this way.

Lines and columns come from places along the source, one for the start of each header
and one for its end, and places are in the same order by offsets and by lines and columns.
-/
import CodeAtlas.Proofs.Pattern.FirstDeclarations

namespace CodeAtlas.Pattern

open CodeAtlas.Graph
open CodeAtlas.Regex
open CodeAtlas.Text

/-- The element is placed where the source has the header `word`, from offset `a` up to `b`. -/
structure HeaderAt (source : String) (e : Element) (word : List Char) (a b : Nat) : Prop where
  start : offsetAt (bytes source) e.lineStart e.columnStart = some a
  stop : offsetAt (bytes source) e.lineEnd e.columnEnd = some b
  within : a ≤ b ∧ b ≤ (bytes source).length
  text : byteRange (bytes source) a b = word.flatMap String.utf8EncodeChar
  named : e.name.toList <:+: word
  /-- Nothing but spaces and tabs stands before the header in its line. -/
  indented : ∃ l, offsetAt (bytes source) e.lineStart 0 = some l ∧ l ≤ a ∧
    ∀ x ∈ byteRange (bytes source) l a, x.toNat = ' '.toNat ∨ x.toNat = '\t'.toNat

/-! ### Headers -/

variable {language : String} {set : PatternSet} {source path : String}

/-- A name that is a part of the header. -/
theorem Header.name_infix {p : DeclarationPattern} (h : Header p source.toList) {name : Span}
    (hname : Covers (h.before ++ h.blanks) h.word name) : (spanText source name).toList <:+: h.word := by
  obtain ⟨u, v, w, hword, rfl⟩ := hname
  have htext : source.toList = (h.before ++ h.blanks ++ u) ++ v ++ (w ++ h.after) := by
    refine h.text_eq.trans ?_
    rw [hword]
    simp
  rw [spanText_after htext, String.toList_ofList, hword]
  exact List.infix_append u v w

/-- Nothing but spaces and tabs stands before a header in its line. -/
theorem Header.indented {p : DeclarationPattern} (h : Header p source.toList) :
    ∃ l, offsetAt (bytes source) (h.span.start.row + 1) 0 = some l ∧ l ≤ h.span.start.offset ∧
      ∀ x ∈ byteRange (bytes source) l h.span.start.offset, x.toNat = ' '.toNat ∨ x.toNat = '\t'.toNat := by
  refine ⟨(Place.after h.before).offset, ?_, Place.offset_le_of_prefix (List.prefix_append _ _), ?_⟩
  · have hblanks : '\n' ∉ h.blanks := by
      intro hmem
      rcases h.blank _ hmem with hc | hc
      · cases hc
      · cases hc
    have hline := offsetAt_lineStart h.line hblanks (w := h.rest)
    rw [← h.text_eq_append] at hline
    exact hline
  · intro x hx
    rw [Header.span, byteRange_bytes h.text_eq_append] at hx
    obtain ⟨c, hc, hx⟩ := List.mem_flatMap.mp hx
    rcases h.blank c hc with rfl | rfl
    · exact Or.inl (congrArg UInt8.toNat (List.mem_singleton.mp hx))
    · exact Or.inr (congrArg UInt8.toNat (List.mem_singleton.mp hx))

/-- **The element for a match is placed at the header** that was matched. -/
theorem Header.headerAt {p : DeclarationPattern} (h : Header p source.toList) {style : ParameterStyle} {m : Match}
    {name : Span} (hname : Covers (h.before ++ h.blanks) h.word name) :
    HeaderAt source (elementAt source path style p.kind m h.span name) h.word h.span.start.offset
      h.span.stop.offset where
  start := offsetAt_bytes h.text_eq_append
  stop := offsetAt_bytes h.text_eq
  within := ⟨Place.offset_le_of_prefix (List.prefix_append _ _), offset_le_length_bytes h.text_eq⟩
  text := byteRange_bytes h.text_eq
  named := h.name_infix hname
  indented := h.indented

/-! ### What is extracted -/

theorem exists_header_of_extract (hset : patterns? language = some set) {e : Element}
    (he : e ∈ (extract source language path).elements) :
    ∃ p ∈ set.patterns, ∃ m ∈ p.regex.allMatches source, ∃ (h : Header p source.toList) (name : Span),
      m.captures = h.captures ∧ Covers (h.before ++ h.blanks) h.word name ∧
        e = elementAt source path set.style p.kind m h.span name ∧
        (h.span.start.offset, e) ∈ candidates set source path := by
  obtain ⟨offset, hdeclares⟩ := declares_of_mem hset he
  obtain ⟨p, hp, m, hm, hd⟩ := id hdeclares
  obtain ⟨h, name, hcaptures, hcovers, hd⟩ :=
    exists_header_of_declaration? (isAnchored_of_mem hset hp).1 hm (declaration?_eq_some_iff.mpr hd)
  obtain ⟨rfl, rfl⟩ := Prod.mk.inj hd
  exact ⟨p, hp, m, hm, h, name, hcaptures, hcovers, rfl, mem_candidates.mpr hdeclares⟩

/-- The positions of an element, by line and column: where it begins and where it ends. -/
def positions (e : Element) : List (Nat × Nat) :=
  [(e.lineStart, e.columnStart), (e.lineEnd, e.columnEnd)]

/-- Every position is that of a place along the source. -/
theorem exists_place_of_position (hset : patterns? language = some set) {e : Element}
    (he : e ∈ (extract source language path).elements) {s : Nat × Nat} (hs : s ∈ positions e) :
    ∃ u v, source.toList = u ++ v ∧ s = ((Place.after u).row + 1, (Place.after u).column) := by
  obtain ⟨p, hp, m, hm, h, name, -, -, rfl, -⟩ := exists_header_of_extract hset he
  rcases List.mem_cons.mp hs with rfl | hs
  · exact ⟨_, _, h.text_eq_append, rfl⟩
  · rw [List.mem_singleton.mp hs]
    exact ⟨_, _, h.text_eq, rfl⟩

/-- Elements are placed at headers of a source, and their positions are in the order of the offsets there. -/
structure SpansFaithful (set : PatternSet) (source : String) (elements : List Element) : Prop where
  /-- Each element is placed at the header that some pattern has matched. -/
  headers : ∀ e ∈ elements, ∃ p ∈ set.patterns, ∃ m ∈ p.regex.allMatches source, ∃ h : Header p source.toList,
    m.captures = h.captures ∧ e.kind = p.kind ∧ ∃ a b, HeaderAt source e h.word a b
  /-- Lines and then columns are in the order of offsets. -/
  order : ∀ e ∈ elements, ∀ f ∈ elements, ∀ s ∈ positions e, ∀ t ∈ positions f, ∃ a b,
    offsetAt (bytes source) s.1 s.2 = some a ∧ offsetAt (bytes source) t.1 t.2 = some b ∧
      (a < b ↔ s.1 < t.1 ∨ s.1 = t.1 ∧ s.2 < t.2)

/-- **Lines and columns lead back to the headers** that the patterns have matched. -/
theorem extract_spans_faithful (hset : patterns? language = some set) (source path : String) :
    SpansFaithful set source (extract source language path).elements where
  headers := by
    intro e he
    obtain ⟨p, hp, m, hm, h, name, hcaptures, hcovers, rfl, -⟩ := exists_header_of_extract hset he
    exact ⟨p, hp, m, hm, h, hcaptures, rfl, _, _, h.headerAt hcovers⟩
  order := by
    intro e he f hf s hs t ht
    obtain ⟨u, v, hu, rfl⟩ := exists_place_of_position hset he hs
    obtain ⟨x, y, hx, rfl⟩ := exists_place_of_position hset hf ht
    refine ⟨_, _, offsetAt_bytes hu, offsetAt_bytes hx, ?_⟩
    rw [Place.offset_lt_iff_precedes ⟨v, hu.symm⟩ ⟨y, hx.symm⟩, Place.Precedes]
    simp only [Nat.add_lt_add_iff_right, Nat.add_right_cancel_iff]

set_option maxRecDepth 4000 in
/-- A header of two lines after a character of two bytes, and no line feed at the end. -/
theorem extract_spans_faithful_python :
    ∃ set e, patterns? "python" = some set ∧
      extract "# \u00e9\n\tdef f(a,\n b): pass" "python" "a.py" = ⟨[e], [], []⟩ ∧
      positions e = [(2, 1), (3, 3)] ∧ SpansFaithful set "# \u00e9\n\tdef f(a,\n b): pass" [e] := by
  obtain ⟨set, hset, hfound⟩ : ∃ set, patterns? "python" = some set ∧
      candidates set "# \u00e9\n\tdef f(a,\n b): pass" "a.py" =
        [(6, { Element.bare "f" .function "a.py" with
          lineStart := 2, columnStart := 1, lineEnd := 3, columnEnd := 3, parameters := some ["a", "b"] })] := by
    refine ⟨_, rfl, ?_⟩
    rw [make_eq_setOf (.cons rfl .nil) (.cons rfl .nil)]
    decide +kernel
  have hextract := extract_of_sorted hset hfound (List.pairwise_singleton _ _)
  have hspans := extract_spans_faithful hset "# \u00e9\n\tdef f(a,\n b): pass" "a.py"
  rw [hextract] at hspans
  exact ⟨set, _, hset, hextract, rfl, hspans⟩

end CodeAtlas.Pattern
