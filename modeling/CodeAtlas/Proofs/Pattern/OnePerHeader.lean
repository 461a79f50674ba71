/-
One header and one declaration.

Every header declares one thing, so no two elements should begin at the same place and
what is written as a type should not be found as a function.  Patterns do not always
keep to this.  In Java and in C++ a header that opens a parenthesis can be matched by the
pattern for functions and by the one for types.  A record is the plainest case: its
components look like parameters, the pattern for functions comes first, and the record is
lost under its own name.

In all other languages, and in these two wherever no parenthesis is opened before the
header of a type would end, it is as it should be.
-/
import CodeAtlas.Proofs.Pattern.Spans

namespace CodeAtlas.Pattern

open CodeAtlas.Graph
open CodeAtlas.Regex
open CodeAtlas.Text

variable {language : String} {set : PatternSet} {source path : String}

/-- Headers at the same line and column begin at the same offset. -/
theorem Header.offset_eq {p q : DeclarationPattern} (h : Header p source.toList) (k : Header q source.toList)
    (hrow : h.span.start.row = k.span.start.row) (hcolumn : h.span.start.column = k.span.start.column) :
    h.span.start.offset = k.span.start.offset := by
  have hfound : offsetAt (bytes source) (h.span.start.row + 1) h.span.start.column = some h.span.start.offset :=
    offsetAt_bytes h.text_eq_append
  have kfound : offsetAt (bytes source) (k.span.start.row + 1) k.span.start.column = some k.span.start.offset :=
    offsetAt_bytes k.text_eq_append
  rw [hrow, hcolumn, kfound] at hfound
  exact (Option.some.inj hfound).symm

/-- A header of a type at the place of a header of a function. -/
theorem clash_of_headers (hset : patterns? language = some set) {p q : DeclarationPattern} (hp : p ∈ set.patterns)
    (hq : q ∈ set.patterns) (hfunction : p.kind = .function) (htype : q.kind = .classLike)
    (h : Header p source.toList) (k : Header q source.toList) (hstart : h.span.start.offset = k.span.start.offset) :
    Clash language .function .classLike h.rest := by
  have hne : p ≠ q := by
    rintro rfl
    rw [hfunction] at htype
    cases htype
  rcases Lists.rel_or_rel_of_pairwise (headers_pairwise hset source.toList) hp hq hne with hclash | hclash
  · exact hfunction ▸ htype ▸ hclash h k hstart
  · have hfirst := (hclash k h hstart.symm).function
    rw [htype] at hfirst
    cases hfirst

/-- No two elements begin at the same place, and none is a function where the text has the header of a type: in no
language but those where functions and types can clash, and there only where they do. -/
structure OnePerHeader (language : String) (set : PatternSet) (source : String) (elements : List Element) : Prop where
  starts : ∀ e ∈ elements, ∀ f ∈ elements, e ≠ f → e.lineStart = f.lineStart → e.columnStart = f.columnStart →
    ∃ a, offsetAt (bytes source) e.lineStart e.columnStart = some a ∧
      (ClashAt language source a e.kind f.kind ∨ ClashAt language source a f.kind e.kind)
  /-- The header of a type counts wherever there is one, whether a search finds it or not. -/
  functions : ∀ e ∈ elements, e.kind = .function → ∀ q ∈ set.patterns, q.kind = .classLike →
    ∀ before word after groups header, source.toList = before ++ word ++ after →
      q.regex.Matches before word after groups → groups.lookup "decl" = some header →
      header.start.row + 1 = e.lineStart → header.start.column = e.columnStart →
        ClashAt language source header.start.offset .function .classLike

/-- **There is one declaration for each header**, except where a function and a type clash. -/
theorem extract_one_per_header (hset : patterns? language = some set) (source path : String) :
    OnePerHeader language set source (extract source language path).elements where
  starts := by
    intro e he f hf hne hline hcolumn
    obtain ⟨p, hp, m, hm, h, hname, -, -, rfl, hfound⟩ := exists_header_of_extract hset he
    obtain ⟨q, hq, n, hn, k, kname, -, -, rfl, kfound⟩ := exists_header_of_extract hset hf
    have hoffset := h.offset_eq k (Nat.succ.inj hline) hcolumn
    refine ⟨h.span.start.offset, offsetAt_bytes h.text_eq_append, ?_⟩
    rcases Lists.rel_or_rel_of_pairwise (candidates_pairwise hset source path) hfound kfound
      (fun heq => hne (congrArg Prod.snd heq)) with hclash | hclash
    · exact Or.inl (hclash hoffset)
    · exact Or.inr (hoffset ▸ hclash hoffset.symm)
  functions := by
    intro e he hfunction q hq htype before word after groups header htext hmatch hheader hline hcolumn
    obtain ⟨p, hp, m, hm, h, name, -, -, rfl, -⟩ := exists_header_of_extract hset he
    obtain ⟨k, rfl⟩ : ∃ k : Header q source.toList, groups = k.captures := by
      rw [htext]
      obtain ⟨k, hgroups, -⟩ := exists_header (isAnchored_of_mem hset hq).1 hmatch
      exact ⟨k, hgroups⟩
    rw [k.lookup_decl] at hheader
    cases hheader
    have hoffset := h.offset_eq k (Nat.succ.inj hline.symm) hcolumn.symm
    exact ⟨_, _, h.text_eq_append, hoffset, clash_of_headers hset hp hq hfunction htype h k hoffset⟩

set_option maxRecDepth 4000 in
/-- A function that returns a structure, which C++ lets it name in full. -/
theorem extract_one_per_header_cpp :
    ∃ set e f, patterns? "cpp" = some set ∧
      extract "struct A f() \x7b\n\x7d\n" "cpp" "a.cpp" = ⟨[e, f], [], []⟩ ∧
      e.kind = .function ∧ f.kind = .classLike ∧ e.lineStart = f.lineStart ∧ e.columnStart = f.columnStart ∧
      OnePerHeader "cpp" set "struct A f() \x7b\n\x7d\n" [e, f] := by
  obtain ⟨set, hset, hfound⟩ : ∃ set, patterns? "cpp" = some set ∧
      candidates set "struct A f() \x7b\n\x7d\n" "a.cpp" =
        [(0, inLine "f" .function "a.cpp" 1 14 (some [])), (0, inLine "A" .classLike "a.cpp" 1 14 none)] := by
    refine ⟨_, rfl, ?_⟩
    rw [make_eq_setOf (.cons rfl .nil) (.cons rfl .nil)]
    decide +kernel
  have hextract : extract "struct A f() \x7b\n\x7d\n" "cpp" "a.cpp" =
      ⟨[inLine "f" .function "a.cpp" 1 14 (some []), inLine "A" .classLike "a.cpp" 1 14 none], [], []⟩ := by
    rw [extract_of_sorted hset hfound (by decide)]
    decide
  have hone := extract_one_per_header hset "struct A f() \x7b\n\x7d\n" "a.cpp"
  rw [hextract] at hone
  exact ⟨set, _, _, hset, hextract, rfl, rfl, rfl, rfl, hone⟩

set_option maxRecDepth 4000 in
/-- A record is found as a function and not as a type, although the pattern for types matches at the same place. -/
theorem record_found_as_function :
    ∃ set e, patterns? "java" = some set ∧
      extract "record Point(int x, int y) \x7b\n\x7d\n" "java" "Point.java" = ⟨[e], [], []⟩ ∧
      e.kind = .function ∧ ∃ q ∈ set.patterns, q.kind = .classLike ∧
        ∃ m ∈ q.regex.allMatches "record Point(int x, int y) \x7b\n\x7d\n", ∃ header,
          m.group? "decl" = some header ∧ header.start.row + 1 = e.lineStart ∧ header.start.column = e.columnStart := by
  obtain ⟨set, hset, hfound⟩ : ∃ set, patterns? "java" = some set ∧
      candidates set "record Point(int x, int y) \x7b\n\x7d\n" "Point.java" =
        [(0, inLine "Point" .function "Point.java" 1 28 (some ["x", "y"])),
          (0, inLine "Point" .classLike "Point.java" 1 12 none)] := by
    refine ⟨_, rfl, ?_⟩
    rw [make_eq_setOf (.cons rfl .nil) (.cons rfl .nil)]
    decide +kernel
  have hextract : extract "record Point(int x, int y) \x7b\n\x7d\n" "java" "Point.java" =
      ⟨[inLine "Point" .function "Point.java" 1 28 (some ["x", "y"])], [], []⟩ := by
    rw [extract_of_sorted hset hfound (by decide)]
    decide
  have htype : Declares set "record Point(int x, int y) \x7b\n\x7d\n" "Point.java"
      (0, inLine "Point" .classLike "Point.java" 1 12 none) := by
    rw [← mem_candidates, hfound]
    exact List.mem_cons_of_mem _ List.mem_cons_self
  obtain ⟨q, hq, m, hm, header, name, hheader, -, -, hd⟩ := htype
  have helement := congrArg Prod.snd hd
  exact ⟨set, _, hset, hextract, rfl, q, hq, (congrArg Element.kind helement).symm, m, hm, header, hheader,
    (congrArg Element.lineStart helement).symm, (congrArg Element.columnStart helement).symm⟩

end CodeAtlas.Pattern
