/-
Rules about single segments of paths.

A line that is just a name, or an asterisk and an ending of names, is about the last
segment of a path and about nothing else.  There are two halves to this.

  * The line is read as it looks: directories before the name, then perhaps an
    asterisk, then one literal part for every character.
  * The parts fit a path exactly if the name at its end is the name of the rule, or
    ends as the rule says.  A path is matched byte by byte, but neither the literal
    parts nor the asterisk get past a slash, so that only one way to match is left.

Rules of this kind never take anything back.  So the order in which they are given
does not matter, and what they pass over is what one of them fits.
-/
import CodeAtlas.Ignore.Rule
import CodeAtlas.Proofs.Text.Shown

namespace CodeAtlas.Ignore

open CodeAtlas.Path (slash)
open CodeAtlas.Text

/-- Whether a character stands for itself in patterns. -/
def isPlain (c : Char) : Bool :=
  !(['/', '*', '?', '[', '{', '}', '\\'].contains c)

/-- A name in which every character stands for itself when it is the line of a rule. -/
structure Literal where
  text : String
  nonempty : text ≠ ""
  plain : text.toList.all isPlain = true
  first : text.toList.head? ≠ some '!' ∧ text.toList.head? ≠ some '#'
  last : text.toList.getLast?.any isBlank = false

/-- A rule about one segment: its name, or how its name ends. -/
inductive SegmentPattern where
  | name (t : Literal)
  | ending (t : Literal)

namespace SegmentPattern

/-- The line that says so. -/
def line : SegmentPattern → String
  | .name t => t.text
  | .ending t => "*" ++ t.text

/-- Whether the rule is about a segment. -/
def Fits : SegmentPattern → Bytes → Prop
  | .name t, segment => segment = bytes t.text
  | .ending t, segment => bytes t.text <:+ segment

instance (p : SegmentPattern) (segment : Bytes) : Decidable (p.Fits segment) :=
  match p with
  | .name t => inferInstanceAs (Decidable (segment = bytes t.text))
  | .ending t => inferInstanceAs (Decidable (bytes t.text <:+ segment))

/-- The parts that match the segment itself. -/
def tokens : SegmentPattern → List GlobToken
  | .name t => t.text.toList.map .literal
  | .ending t => .star :: t.text.toList.map .literal

/-- The rule that the line describes. -/
def rule (p : SegmentPattern) : Rule :=
  ⟨⟨.directoriesFirst :: p.tokens⟩, false, false⟩

end SegmentPattern

/-! ### Reading the line -/

theorem Literal.exists_cons (t : Literal) : ∃ c rest, t.text.toList = c :: rest := by
  cases h : t.text.toList with
  | nil => exact absurd (String.toList_eq_nil_iff.mp h) t.nonempty
  | cons c rest => exact ⟨c, rest, rfl⟩

theorem Literal.not_mem (t : Literal) {c : Char} (hc : isPlain c = false) : c ∉ t.text.toList := by
  intro hmem
  have hplain := List.all_eq_true.mp t.plain c hmem
  rw [hc] at hplain
  cases hplain

/-- A plain character outside of alternatives is a part of its own. -/
theorem readOn_cons {g : GlobReading} (hgroups : g.groups = []) {c : Char} {rest : List Char}
    (hc : isPlain c = true) : g.readOn (c :: rest) = (g.push (.literal c) c).readOn rest := by
  simp only [isPlain, Bool.not_eq_true', List.contains_eq_mem, decide_eq_false_iff_not, List.mem_cons,
    List.not_mem_nil, or_false, not_or] at hc
  obtain ⟨-, hstar, hmark, hbracket, hopen, hclose, hescape⟩ := hc
  by_cases hcomma : c = ','
  · -- A comma divides alternatives only where there are some.
    subst hcomma
    rw [GlobReading.readOn, hgroups]
    rfl
  · rw [GlobReading.readOn]
    all_goals (intros; contradiction)

/-- Plain characters are read one by one. -/
theorem readOn_plain : ∀ {cs : List Char} {g : GlobReading}, g.groups = [] → cs.all isPlain = true →
    ∃ g', g.readOn cs = .ok g' ∧ g'.done = g.done ∧ g'.current = (cs.map .literal).reverse ++ g.current := by
  intro cs
  induction cs with
  | nil =>
      intro g _ _
      refine ⟨g, ?_, rfl, rfl⟩
      rw [GlobReading.readOn]
  | cons c rest ih =>
      intro g hgroups hplain
      rw [List.all_cons, Bool.and_eq_true] at hplain
      obtain ⟨hc, hrest⟩ := hplain
      obtain ⟨g', hread, hdone, hcurrent⟩ := ih (g := g.push (.literal c) c) hgroups hrest
      refine ⟨g', ?_, hdone, ?_⟩
      · rw [readOn_cons hgroups hc]
        exact hread
      · rw [hcurrent, List.map_cons, List.reverse_cons, List.append_assoc]
        rfl

/-- Two asterisks and a slash at the start stand for directories. -/
theorem readOn_directories (rest : List Char) :
    GlobReading.readOn ⟨[], [], [], none, false⟩ ('*' :: '*' :: '/' :: rest) =
      GlobReading.readOn ⟨[], [.directoriesFirst], [], some '/', false⟩ rest := by
  rw [GlobReading.readOn]
  rfl

theorem readOn_star {g : GlobReading} {c : Char} {rest : List Char} (hc : c ≠ '*') :
    g.readOn ('*' :: c :: rest) = (g.push .star '*').readOn (c :: rest) := by
  rw [GlobReading.readOn]
  intro rest' heq
  exact hc (List.cons.inj heq).1

theorem ofString_line (p : SegmentPattern) :
    Glob.ofString (String.ofList ("**/".toList ++ p.line.toList)) = .ok ⟨.directoriesFirst :: p.tokens⟩ := by
  have hread : ∃ g, GlobReading.readOn ⟨[], [], [], none, false⟩ ('*' :: '*' :: '/' :: p.line.toList) = .ok g ∧
      g.done = [] ∧ g.current.reverse = .directoriesFirst :: p.tokens := by
    rw [readOn_directories]
    cases p with
    | name t =>
        obtain ⟨g, hg, hdone, hcurrent⟩ := readOn_plain
          (g := ⟨[], [.directoriesFirst], [], some '/', false⟩) rfl t.plain
        refine ⟨g, hg, hdone, ?_⟩
        rw [hcurrent, List.reverse_append, List.reverse_reverse]
        rfl
    | ending t =>
        obtain ⟨g, hg, hdone, hcurrent⟩ := readOn_plain
          (g := ⟨[], [.star, .directoriesFirst], [], some '*', false⟩) rfl t.plain
        refine ⟨g, ?_, hdone, ?_⟩
        · obtain ⟨c, rest, ht⟩ := t.exists_cons
          have hline : (SegmentPattern.ending t).line.toList = '*' :: c :: rest := by
            rw [SegmentPattern.line, String.toList_append, ht]
            rfl
          have hc : c ≠ '*' := by
            rintro rfl
            exact t.not_mem rfl (by rw [ht]; exact List.mem_cons_self)
          rw [hline, readOn_star hc, ← ht]
          exact hg
        · rw [hcurrent, List.reverse_append, List.reverse_reverse]
          rfl
  obtain ⟨g, hg, hdone, hcurrent⟩ := hread
  have htext : "**/".toList ++ p.line.toList = '*' :: '*' :: '/' :: p.line.toList := rfl
  unfold Glob.ofString
  rw [String.toList_ofList, htext, hg]
  simp [hdone, hcurrent]

theorem trimLine_concat {cs : List Char} {c : Char} (hc : isBlank c = false) : trimLine (cs ++ [c]) = cs ++ [c] := by
  have hspace : c ≠ ' ' := by
    rintro rfl
    cases hc
  unfold trimLine dropEndWhile
  rw [List.reverse_append, List.reverse_singleton, List.singleton_append, List.dropWhile_cons, hc]
  simp [hspace]

theorem ofStart_cons {c : Char} {rest : List Char} (hmark : c ≠ '!') (hslash : c ≠ '/') (hescape : c ≠ '\\') :
    LineParts.ofStart (c :: rest) = ⟨false, false, false, c :: rest⟩ := by
  unfold LineParts.ofStart
  split
  · next heq => exact absurd (List.cons.inj heq).1 hescape
  · next heq => exact absurd (List.cons.inj heq).1 hescape
  · simp [hmark, hslash]

theorem withoutSlash_concat {cs : List Char} {c : Char} (hc : c ≠ '/') :
    LineParts.withoutSlash ⟨false, false, false, cs ++ [c]⟩ = ⟨false, false, false, cs ++ [c]⟩ := by
  unfold LineParts.withoutSlash
  simp only [List.reverse_append, List.reverse_singleton, List.singleton_append]
  split
  · next heq => exact absurd (List.cons.inj heq).1 hc
  · next heq => exact absurd (List.cons.inj heq).1 hc
  · rfl

/-- A pattern without a slash fits at any depth. -/
theorem fullPattern_of_not_mem {cs : List Char} (hslash : '/' ∉ cs) (hlast : cs.getLast? ≠ some '*') :
    LineParts.fullPattern ⟨false, false, false, cs⟩ = "**/".toList ++ cs := by
  have hcontains : cs.contains '/' = false := by simpa using hslash
  have hdirectories : "**/".toList.isPrefixOf cs = false := by
    rw [← Bool.not_eq_true, List.isPrefixOf_iff_prefix]
    intro hbegins
    exact hslash (hbegins.subset (by decide))
  have hstars : (cs == "**".toList) = false := by
    rw [← Bool.not_eq_true, beq_iff_eq]
    rintro rfl
    exact hlast rfl
  have hbelow : "/**".toList.isSuffixOf ("**/".toList ++ cs) = false := by
    rw [← Bool.not_eq_true, List.isSuffixOf_iff_suffix]
    rintro ⟨before, heq⟩
    have hend := congrArg List.getLast? heq
    rw [List.getLast?_append, List.getLast?_append] at hend
    cases hcs : cs.getLast? with
    | none =>
        rw [hcs] at hend
        have hsign : some '*' = some '/' := hend
        exact absurd hsign (by decide)
    | some c =>
        rw [hcs] at hend hlast
        exact hlast hend.symm
  unfold LineParts.fullPattern
  simp only [hcontains, hdirectories, hstars, hbelow, Bool.not_false, Bool.or_self, Bool.and_self, if_true,
    Bool.false_eq_true, if_false]

/-- The first and the last character of a line, and what is not in it. -/
theorem SegmentPattern.line_shape (p : SegmentPattern) :
    (∃ c rest, p.line.toList = c :: rest ∧ c ≠ '#' ∧ c ≠ '!' ∧ c ≠ '\\') ∧
    (∃ before c, p.line.toList = before ++ [c] ∧ isBlank c = false ∧ c ≠ '*') ∧ '/' ∉ p.line.toList := by
  have htext : ∀ t : Literal, (∃ before c, t.text.toList = before ++ [c] ∧ isBlank c = false ∧ c ≠ '*') ∧
      '/' ∉ t.text.toList := by
    intro t
    refine ⟨?_, t.not_mem rfl⟩
    obtain ⟨c, rest, ht⟩ := t.exists_cons
    have hne : t.text.toList ≠ [] := by
      rw [ht]
      exact List.cons_ne_nil _ _
    refine ⟨_, _, (List.dropLast_concat_getLast hne).symm, ?_, ?_⟩
    · have hlast := t.last
      rw [List.getLast?_eq_some_getLast hne] at hlast
      exact hlast
    · intro hstar
      exact t.not_mem rfl (hstar ▸ List.getLast_mem hne)
  cases p with
  | name t =>
      refine ⟨?_, htext t⟩
      obtain ⟨c, rest, ht⟩ := t.exists_cons
      have hfirst := t.first
      rw [ht] at hfirst
      refine ⟨c, rest, ht, ?_, ?_, ?_⟩
      · rintro rfl
        exact hfirst.2 rfl
      · rintro rfl
        exact hfirst.1 rfl
      · rintro rfl
        exact t.not_mem rfl (by rw [ht]; exact List.mem_cons_self)
  | ending t =>
      obtain ⟨⟨before, c, ht, hblank, hstar⟩, hslash⟩ := htext t
      have hline : (SegmentPattern.ending t).line.toList = '*' :: t.text.toList := by
        rw [line, String.toList_append]
        rfl
      rw [hline]
      refine ⟨⟨'*', _, rfl, by decide, by decide, by decide⟩, ⟨'*' :: before, c, ?_, hblank, hstar⟩, ?_⟩
      · rw [ht]
        rfl
      · intro hmem
        rcases List.mem_cons.mp hmem with hc | hmem
        · cases hc
        · exact hslash hmem

/-- **A line about a segment is read as it looks.** -/
theorem ofLine_line (p : SegmentPattern) : Rule.ofLine p.line = .ok (some p.rule) := by
  obtain ⟨⟨first, rest, hfirst, hcomment, hmark, hescape⟩, ⟨before, last, hlast, hblank, hstar⟩, hslash⟩ :=
    p.line_shape
  have hhead : (p.line.toList.head? == some '#') = false := by simp [hfirst, hcomment]
  have htrim : trimLine p.line.toList = p.line.toList := by
    rw [hlast]
    exact trimLine_concat hblank
  have hnonempty : p.line.toList.isEmpty = false := by rw [hfirst]; rfl
  have hstart : LineParts.ofStart p.line.toList = ⟨false, false, false, p.line.toList⟩ := by
    have hne : first ≠ '/' := fun h => hslash (by rw [hfirst, h]; exact List.mem_cons_self)
    rw [hfirst]
    exact ofStart_cons hmark hne hescape
  have hend : LineParts.withoutSlash ⟨false, false, false, p.line.toList⟩ =
      ⟨false, false, false, p.line.toList⟩ := by
    have hne : last ≠ '/' := fun h => hslash (by rw [hlast, h]; simp)
    rw [hlast]
    exact withoutSlash_concat hne
  have hfull : LineParts.fullPattern ⟨false, false, false, p.line.toList⟩ = "**/".toList ++ p.line.toList := by
    refine fullPattern_of_not_mem hslash ?_
    rw [hlast, List.getLast?_concat]
    simpa using hstar
  unfold Rule.ofLine
  simp only [hhead, htrim, hnonempty, hstart, hend, hfull, ofString_line, Bool.false_eq_true, if_false]
  rfl

theorem ofLines_lines : ∀ patterns : List SegmentPattern,
    Rule.ofLines (patterns.map SegmentPattern.line) = .ok (patterns.map SegmentPattern.rule) := by
  intro patterns
  induction patterns with
  | nil => rfl
  | cons p rest ih =>
      rw [List.map_cons, Rule.ofLines, ofLine_line, ih]
      rfl

/-! ### Matching the path -/

theorem readBytes_iff {next : Bytes → Bool} : ∀ {bytes path : Bytes},
    readBytes bytes next path = true ↔ ∃ rest, path = bytes ++ rest ∧ next rest = true := by
  intro bytes
  induction bytes with
  | nil =>
      intro path
      simp [readBytes]
  | cons b bytes ih =>
      intro path
      cases path with
      | nil => simp [readBytes]
      | cons c path =>
          rw [readBytes, Bool.and_eq_true, beq_iff_eq, ih]
          constructor
          · rintro ⟨rfl, rest, rfl, hnext⟩
            exact ⟨rest, rfl, hnext⟩
          · rintro ⟨rest, heq, hnext⟩
            rw [List.cons_append, List.cons.injEq] at heq
            exact ⟨heq.1.symm, rest, heq.2, hnext⟩

theorem runAll_literals : ∀ {cs : List Char} {path : Bytes},
    GlobToken.runAll (cs.map .literal) List.isEmpty path = true ↔ path = cs.flatMap String.utf8EncodeChar := by
  intro cs
  induction cs with
  | nil =>
      intro path
      rw [List.map_nil, GlobToken.runAll, List.isEmpty_iff, List.flatMap_nil]
  | cons c cs ih =>
      intro path
      rw [List.map_cons, GlobToken.runAll, GlobToken.run, readBytes_iff, List.flatMap_cons]
      constructor
      · rintro ⟨rest, rfl, hrest⟩
        rw [ih.mp hrest]
      · rintro rfl
        exact ⟨_, rfl, ih.mpr rfl⟩

/-- An asterisk stands for bytes that are no slashes. -/
theorem afterSegment_iff {next : Bytes → Bool} : ∀ {path : Bytes},
    afterSegment next path = true ↔ ∃ before rest, path = before ++ rest ∧ slash ∉ before ∧ next rest = true := by
  intro path
  induction path with
  | nil =>
      rw [afterSegment]
      constructor
      · intro h
        exact ⟨[], [], rfl, List.not_mem_nil, h⟩
      · rintro ⟨before, rest, heq, -, h⟩
        rw [(List.append_eq_nil_iff.mp heq.symm).2] at h
        exact h
  | cons c path ih =>
      rw [afterSegment, Bool.or_eq_true, Bool.and_eq_true, bne_iff_ne, ih]
      constructor
      · rintro (h | ⟨hc, before, rest, rfl, hbefore, h⟩)
        · exact ⟨[], _, rfl, List.not_mem_nil, h⟩
        · refine ⟨c :: before, rest, rfl, ?_, h⟩
          rw [List.mem_cons, not_or]
          exact ⟨hc.symm, hbefore⟩
      · rintro ⟨before, rest, heq, hbefore, h⟩
        cases before with
        | nil =>
            rw [List.nil_append] at heq
            exact Or.inl (heq ▸ h)
        | cons b before =>
            rw [List.cons_append, List.cons.injEq] at heq
            rw [List.mem_cons, not_or] at hbefore
            refine Or.inr ⟨?_, before, rest, heq.2, hbefore.2, h⟩
            rw [heq.1]
            exact fun hb => hbefore.1 hb.symm

theorem afterSlash_iff {next : Bytes → Bool} : ∀ {path : Bytes},
    afterSlash next path = true ↔ ∃ before rest, path = before ++ slash :: rest ∧ next rest = true := by
  intro path
  induction path with
  | nil =>
      rw [afterSlash]
      constructor
      · intro h
        cases h
      · rintro ⟨before, rest, heq, -⟩
        cases before <;> cases heq
  | cons c path ih =>
      rw [afterSlash, Bool.or_eq_true, Bool.and_eq_true, beq_iff_eq, ih]
      constructor
      · rintro (⟨rfl, h⟩ | ⟨before, rest, rfl, h⟩)
        · exact ⟨[], path, rfl, h⟩
        · exact ⟨c :: before, rest, rfl, h⟩
      · rintro ⟨before, rest, heq, h⟩
        cases before with
        | nil =>
            rw [List.nil_append, List.cons.injEq] at heq
            exact Or.inl ⟨heq.1, heq.2 ▸ h⟩
        | cons b before =>
            rw [List.cons_append, List.cons.injEq] at heq
            exact Or.inr ⟨before, rest, heq.2, h⟩

/-- The name at the end of a path. -/
def EndsWith (path segment : Bytes) : Prop :=
  path = segment ∨ ∃ before, path = before ++ slash :: segment

/-- Directories before a pattern that is about one segment leave the last one to it. -/
theorem run_directoriesFirst {next : Bytes → Bool} (hnext : ∀ b, next b = true → slash ∉ b)
    {path segment : Bytes} (hpath : EndsWith path segment) (hsegment : slash ∉ segment) :
    GlobToken.directoriesFirst.run next path = true ↔ next segment = true := by
  rw [GlobToken.run, Bool.or_eq_true, afterSlash_iff]
  rcases hpath with rfl | ⟨before, rfl⟩
  · constructor
    · rintro (h | ⟨front, rest, heq, -⟩)
      · exact h
      · exact absurd (by rw [heq]; simp) hsegment
    · exact Or.inl
  · constructor
    · rintro (h | ⟨front, rest, heq, h⟩)
      · exact absurd (by simp) (hnext _ h)
      · -- After the last slash there is only the segment.
        have hrest := hnext rest h
        have hsame : segment = rest := by
          rcases List.append_eq_append_iff.mp heq with ⟨more, -, htail⟩ | ⟨more, -, htail⟩
          · cases more with
            | nil => exact (List.cons.inj htail).2
            | cons b more =>
                rw [List.cons_append, List.cons.injEq] at htail
                exact absurd (by rw [htail.2]; simp) hsegment
          · cases more with
            | nil => exact (List.cons.inj htail).2.symm
            | cons b more =>
                rw [List.cons_append, List.cons.injEq] at htail
                exact absurd (by rw [htail.2]; simp) hrest
        rw [hsame]
        exact h
    · intro h
      exact Or.inr ⟨_, _, rfl, h⟩

theorem Literal.slash_not_mem (t : Literal) : slash ∉ bytes t.text := by
  intro h
  exact t.not_mem rfl ((ascii_mem_bytes (c := '/') (by decide)).mp h)

namespace SegmentPattern

/-- The parts for a segment match the bytes that the rule is about. -/
theorem runAll_tokens (p : SegmentPattern) {segment : Bytes} (hsegment : slash ∉ segment) :
    GlobToken.runAll p.tokens List.isEmpty segment = true ↔ p.Fits segment := by
  cases p with
  | name t => exact runAll_literals
  | ending t =>
      rw [tokens, GlobToken.runAll, GlobToken.run, afterSegment_iff]
      constructor
      · rintro ⟨before, rest, rfl, -, hrest⟩
        rw [runAll_literals.mp hrest]
        exact List.suffix_append before _
      · rintro ⟨before, rfl⟩
        rw [List.mem_append, not_or] at hsegment
        exact ⟨before, _, rfl, hsegment.1, runAll_literals.mpr rfl⟩

/-- The parts for a segment match no slash. -/
theorem slash_not_mem_of_runAll (p : SegmentPattern) {b : Bytes}
    (h : GlobToken.runAll p.tokens List.isEmpty b = true) : slash ∉ b := by
  cases p with
  | name t =>
      rw [runAll_literals.mp h]
      exact t.slash_not_mem
  | ending t =>
      rw [tokens, GlobToken.runAll, GlobToken.run, afterSegment_iff] at h
      obtain ⟨before, rest, rfl, hbefore, hrest⟩ := h
      rw [runAll_literals.mp hrest, List.mem_append, not_or]
      exact ⟨hbefore, t.slash_not_mem⟩

/-- **A rule about a segment fits a path if it fits the last segment.** -/
theorem glob_fits (p : SegmentPattern) {path segment : Bytes} (hpath : EndsWith path segment)
    (hsegment : slash ∉ segment) : p.rule.glob.fits path = true ↔ p.Fits segment := by
  have heverything : p.rule.glob.isEverything = false := by
    cases p with
    | name t =>
        obtain ⟨c, rest, ht⟩ := t.exists_cons
        simp [rule, tokens, ht, Glob.isEverything]
    | ending t => rfl
  have hrun : p.rule.glob.fits path =
      GlobToken.directoriesFirst.run (fun b => GlobToken.runAll p.tokens List.isEmpty b) path := by
    unfold Glob.fits
    rw [heverything, Bool.false_or]
    rfl
  rw [hrun, run_directoriesFirst (fun _ => p.slash_not_mem_of_runAll) hpath hsegment, p.runAll_tokens hsegment]

end SegmentPattern

/-- Rules that keep nothing and ask for no directories pass over what one of them fits. -/
theorem ignores_eq_true_iff {rules : List Rule} (h : ∀ r ∈ rules, r.keeps = false ∧ r.onlyDirectories = false)
    {path : Bytes} {isDirectory : Bool} :
    ignores rules path isDirectory = true ↔ ∃ r ∈ rules, r.glob.fits path = true := by
  have happlies : ∀ r ∈ rules, r.appliesTo path isDirectory = r.glob.fits path := by
    intro r hr
    simp [Rule.appliesTo, (h r hr).2]
  unfold ignores
  split
  · next r hr =>
    have hmem : r ∈ rules := List.mem_reverse.mp (List.mem_of_find?_eq_some hr)
    have hfits := List.find?_some hr
    rw [happlies r hmem] at hfits
    simp only [(h r hmem).1, Bool.not_false, true_iff]
    exact ⟨r, hmem, hfits⟩
  · next hnone =>
    simp only [Bool.false_eq_true, false_iff]
    rintro ⟨r, hr, hfits⟩
    have hno := List.find?_eq_none.mp hnone r (List.mem_reverse.mpr hr)
    rw [happlies r hr] at hno
    exact hno hfits

/-- **Rules about segments pass over a path if one of them is about its last segment.** -/
theorem ignores_rules_iff {patterns : List SegmentPattern} {path segment : Bytes} (hpath : EndsWith path segment)
    (hsegment : slash ∉ segment) (isDirectory : Bool) :
    ignores (patterns.map SegmentPattern.rule) path isDirectory = true ↔ ∃ p ∈ patterns, p.Fits segment := by
  rw [ignores_eq_true_iff]
  · constructor
    · rintro ⟨r, hr, hfits⟩
      obtain ⟨p, hp, rfl⟩ := List.mem_map.mp hr
      exact ⟨p, hp, (p.glob_fits hpath hsegment).mp hfits⟩
    · rintro ⟨p, hp, hfits⟩
      exact ⟨p.rule, List.mem_map.mpr ⟨p, hp, rfl⟩, (p.glob_fits hpath hsegment).mpr hfits⟩
  · intro r hr
    obtain ⟨p, -, rfl⟩ := List.mem_map.mp hr
    exact ⟨rfl, rfl⟩

end CodeAtlas.Ignore
