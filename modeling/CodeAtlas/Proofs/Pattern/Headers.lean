/-
Headers of declarations.

All patterns are alike in that they begin at the start of a line, pass over blanks and
then match a header, which is never empty and always has a name.  `Header` is a place in
a text where a pattern matches like this.  Every match that a search finds is one, and so
is every match that there is at all, found or not.  A search passes over a header only
where it has found another one that begins earlier and reaches into it.

That a pattern is of this form can be checked, `DeclarationPattern.isAnchored`.
-/
import CodeAtlas.Pattern.Declarations
import CodeAtlas.Proofs.Regex.Leftmost

namespace CodeAtlas.Pattern

open CodeAtlas.Graph
open CodeAtlas.Regex
open CodeAtlas.Text

/-- What may stand before a header in its line. -/
def lineBlanks : CharSet :=
  .union (.single ' ') (.single '\t')

/-- The expression for a header that `body` describes, after blanks at the start of a line. -/
def anchored (body : Regex) : Regex :=
  .seq .lineStart (.seq (.star (.chars lineBlanks) false) (.group "decl" body))

/-- The expression for the header itself. -/
def DeclarationPattern.body (p : DeclarationPattern) : Regex :=
  match p.regex with
  | .seq _ (.seq _ (.group _ body)) => body
  | r => r

/-- Whether the pattern is for headers at the start of a line which are not empty and have a name. -/
def DeclarationPattern.isAnchored (p : DeclarationPattern) : Bool :=
  p.regex == anchored p.body && !p.body.nullable && p.body.sets "name"

/-! ### Where a pattern matches -/

/-- A place in a text where a pattern matches: the header is `word`, with nothing but blanks before it in its line. -/
structure Header (p : DeclarationPattern) (text : List Char) where
  before : List Char
  blanks : List Char
  word : List Char
  after : List Char
  groups : Captures
  text_eq : text = before ++ blanks ++ word ++ after
  line : before.getLast?.all (· == '\n') = true
  blank : ∀ c ∈ blanks, c = ' ' ∨ c = '\t'
  body : p.body.Matches (before ++ blanks) word after groups

namespace Header

variable {p : DeclarationPattern} {text : List Char}

/-- The stretch that the header covers. -/
def span (h : Header p text) : Span :=
  ⟨Place.after (h.before ++ h.blanks), Place.after (h.before ++ h.blanks ++ h.word)⟩

/-- The text from the header on. -/
def rest (h : Header p text) : List Char :=
  h.word ++ h.after

/-- The groups of a match of the pattern here. -/
def captures (h : Header p text) : Captures :=
  ("decl", h.span) :: h.groups

theorem text_eq_append (h : Header p text) : text = (h.before ++ h.blanks) ++ h.rest := by
  rw [rest, ← List.append_assoc]
  exact h.text_eq

/-- Headers that begin at the same offset have the same text before and after it. -/
theorem eq_of_start_eq {q : DeclarationPattern} (h : Header p text) (k : Header q text)
    (hstart : h.span.start.offset = k.span.start.offset) :
    h.before ++ h.blanks = k.before ++ k.blanks ∧ h.rest = k.rest := by
  have hlead := Place.eq_of_offset_eq ⟨h.rest, h.text_eq_append.symm⟩ ⟨k.rest, k.text_eq_append.symm⟩ hstart
  have htext := h.text_eq_append.symm.trans k.text_eq_append
  rw [hlead] at htext
  exact ⟨hlead, List.append_cancel_left htext⟩

theorem lookup_decl (h : Header p text) : h.captures.lookup "decl" = some h.span :=
  List.lookup_cons_self

/-- A header has a name, which is a part of it. -/
theorem exists_name (hp : p.isAnchored = true) (h : Header p text) :
    ∃ s, h.captures.lookup "name" = some s ∧ Covers (h.before ++ h.blanks) h.word s := by
  simp only [DeclarationPattern.isAnchored, Bool.and_eq_true] at hp
  obtain ⟨s, hs⟩ := h.body.exists_group hp.2
  have hsome : (h.groups.lookup "name").isSome = true :=
    List.lookup_isSome_iff.mpr ⟨_, hs, by simp⟩
  obtain ⟨s', hs'⟩ := Option.isSome_iff_exists.mp hsome
  obtain ⟨l₁, l₂, hsplit, -⟩ := List.lookup_eq_some_iff.mp hs'
  have hmem : ("name", s') ∈ h.groups := by
    rw [hsplit]
    exact List.mem_append_right _ List.mem_cons_self
  exact ⟨s', hs', h.body.covers _ hmem⟩

theorem word_ne_nil (hp : p.isAnchored = true) (h : Header p text) : h.word ≠ [] := by
  intro hnil
  simp only [DeclarationPattern.isAnchored, Bool.and_eq_true] at hp
  simp [h.body.nullable hnil] at hp

theorem start_lt_stop (hp : p.isAnchored = true) (h : Header p text) :
    h.span.start.offset < h.span.stop.offset := by
  obtain ⟨c, rest, hword⟩ := List.exists_cons_of_ne_nil (h.word_ne_nil hp)
  unfold span
  rw [hword]
  exact (Place.after_append_lt _ c rest).1

end Header

/-- **Wherever a pattern matches there is a header.** -/
theorem exists_header {p : DeclarationPattern} (hp : p.isAnchored = true) {before word after : List Char}
    {groups : Captures} (h : p.regex.Matches before word after groups) :
    ∃ header : Header p (before ++ word ++ after), groups = header.captures ∧ header.before = before ∧
      header.blanks ++ header.word = word := by
  simp only [DeclarationPattern.isAnchored, Bool.and_eq_true, beq_iff_eq] at hp
  rw [hp.1.1] at h
  cases h with
  | seq hstart hrest =>
      cases hstart with
      | lineStart hline =>
          cases hrest with
          | seq hblanks hgroup =>
              obtain ⟨hmembers, rfl⟩ := hblanks.star_chars rfl
              cases hgroup with
              | group hbody =>
                  rw [List.append_nil] at hbody
                  refine ⟨⟨before, _, _, after, _, ?_, hline, ?_, hbody⟩, ?_, rfl, rfl⟩
                  · simp
                  · intro c hc
                    have hfound : c ∈ [' ', '\t'] := CharSet.mem_members? (s := lineBlanks) rfl (hmembers c hc)
                    simpa using hfound
                  · simp [Header.captures, Header.span]

/-- The headers that a search finds. -/
theorem exists_header_of_mem {p : DeclarationPattern} (hp : p.isAnchored = true) {source : String} {m : Match}
    (hm : m ∈ p.regex.allMatches source) : ∃ header : Header p source.toList, m.captures = header.captures := by
  obtain ⟨start, word, htext, -, hmatch, -, -⟩ := (allMatches_sound p.regex source).1 m hm
  rw [htext]
  obtain ⟨header, hcaptures, -⟩ := exists_header hp hmatch
  exact ⟨header, hcaptures⟩

/-! ### No header is missed -/

/-- There is a match of the pattern at every header. -/
theorem Header.regex_matches {p : DeclarationPattern} (hp : p.isAnchored = true) {text : List Char}
    (h : Header p text) : p.regex.Matches h.before (h.blanks ++ h.word) h.after h.captures := by
  have hmembers : ∀ c ∈ h.blanks, lineBlanks.mem c = true := by
    intro c hc
    rcases h.blank c hc with rfl | rfl
    · rfl
    · rfl
  have hline : Matches .lineStart h.before [] (h.blanks ++ h.word ++ h.after) [] := .lineStart h.line
  have hblanks : Matches (.star (.chars lineBlanks) false) h.before h.blanks (h.word ++ h.after) [] :=
    matches_star_chars hmembers _ _
  have hgroup : Matches (.group "decl" p.body) (h.before ++ h.blanks) h.word h.after h.captures := .group h.body
  have hrest := hblanks.seq hgroup
  rw [← List.append_nil h.before] at hrest
  have hall := hline.seq hrest
  simp only [DeclarationPattern.isAnchored, Bool.and_eq_true, beq_iff_eq] at hp
  rw [hp.1.1, anchored]
  simpa using hall

theorem nullable_regex {p : DeclarationPattern} (hp : p.isAnchored = true) : p.regex.nullable = false := by
  simp only [DeclarationPattern.isAnchored, Bool.and_eq_true, beq_iff_eq, Bool.not_eq_true'] at hp
  rw [hp.1.1]
  exact hp.1.2

/-- **A search misses no header**: it finds this one, or one that begins in an earlier line and ends after this one
has begun. -/
theorem Header.exists_found {p : DeclarationPattern} (hp : p.isAnchored = true) {source : String}
    (h : Header p source.toList) : ∃ m ∈ p.regex.allMatches source, ∃ k : Header p source.toList,
      m.captures = k.captures ∧ (Place.after k.before).offset ≤ (Place.after h.before).offset ∧
        (Place.after h.before).offset < k.span.stop.offset := by
  have htext : source.toList = h.before ++ (h.blanks ++ h.word) ++ h.after := by
    rw [← List.append_assoc]
    exact h.text_eq
  obtain ⟨m, hm, start, word, hfound, hmatch, hstart, hlong⟩ :=
    allMatches_overlaps (nullable_regex hp) htext (h.regex_matches hp)
  obtain ⟨k, hcaptures, rfl, rfl⟩ : ∃ k : Header p source.toList, m.captures = k.captures ∧ k.before = start ∧
      k.blanks ++ k.word = word := by
    rw [hfound]
    exact exists_header hp hmatch
  refine ⟨m, hm, k, hcaptures, Place.offset_le_of_prefix hstart, ?_⟩
  rw [← List.append_assoc] at hfound hlong
  rw [List.append_assoc] at htext
  obtain ⟨tail, htail⟩ : h.before <+: k.before ++ k.blanks ++ k.word :=
    List.prefix_of_prefix_length_le ⟨_, htext.symm⟩ ⟨_, hfound.symm⟩ (Nat.le_of_lt hlong)
  unfold Header.span
  cases tail with
  | nil =>
      rw [← htail, List.append_nil] at hlong
      exact absurd hlong (Nat.lt_irrefl _)
  | cons c tail =>
      rw [← htail]
      exact (Place.after_append_lt h.before c tail).1

end CodeAtlas.Pattern
