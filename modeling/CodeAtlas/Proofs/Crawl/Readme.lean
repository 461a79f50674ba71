/-
Summaries are texts that a summary leaves as they are.

A summary is a single line.  It begins as the first line of prose that was chosen and
ends as the last one, or with an ellipsis, so nothing at its ends is trimmed, and
nothing at its beginning makes it a heading, a link, a table or the edge of a block of
code.  That is `IsProse`, which holds of every chosen line and is kept by joining such
lines and by cutting the end.  Read again, a summary is one line of prose, and cutting
it once more puts the same ellipsis after the same characters.

Only the lines that are looked at matter, so whatever follows the fiftieth line feed
changes nothing.
-/
import CodeAtlas.Crawl.Readme
import CodeAtlas.Proofs.Text.Trimming

namespace CodeAtlas.Text

/-! ### Lines -/

theorem newline_not_mem_linesFrom (cs : List Char) : ∀ line : List Char, '\n' ∉ line →
    ∀ l ∈ linesFrom line cs, '\n' ∉ l := by
  induction cs with
  | nil =>
      intro line hline l hl
      unfold linesFrom at hl
      by_cases hempty : line.isEmpty
      · simp [hempty] at hl
      · simp only [hempty, Bool.false_eq_true, if_false, List.mem_singleton] at hl
        simpa [hl] using hline
  | cons c rest ih =>
      intro line hline l hl
      unfold linesFrom at hl
      by_cases hc : c = '\n'
      · rw [if_pos hc, List.mem_cons] at hl
        rcases hl with rfl | hl
        · unfold dropReturn
          split
          · exact fun hmem => hline (List.mem_reverse.mp (List.mem_of_mem_dropLast hmem))
          · simpa using hline
        · exact ih [] (by simp) l hl
      · rw [if_neg hc] at hl
        exact ih (c :: line) (by simp [hline, Ne.symm hc]) l hl

/-- A line has no line feed in it. -/
theorem newline_not_mem_lines {cs l : List Char} (h : l ∈ lines cs) : '\n' ∉ l :=
  newline_not_mem_linesFrom cs [] (by simp) l h

theorem linesFrom_of_not_mem (cs : List Char) : ∀ line : List Char, '\n' ∉ cs → line.reverse ++ cs ≠ [] →
    linesFrom line cs = [line.reverse ++ cs] := by
  induction cs with
  | nil =>
      intro line _ hne
      have hline : line ≠ [] := by simpa using hne
      simp [linesFrom, hline]
  | cons c rest ih =>
      intro line hcs hne
      rw [List.mem_cons, not_or] at hcs
      rw [linesFrom, if_neg (Ne.symm hcs.1), ih (c :: line) hcs.2 (by simp)]
      simp

/-- A text without line feeds is a line. -/
theorem lines_of_not_mem {cs : List Char} (h : '\n' ∉ cs) (hne : cs ≠ []) : lines cs = [cs] :=
  linesFrom_of_not_mem cs [] h hne

/-- The first lines of a text are complete after as many line feeds. -/
theorem take_linesFrom_append (cs more : List Char) : ∀ (line : List Char) (n : Nat), n ≤ cs.count '\n' →
    (linesFrom line (cs ++ more)).take n = (linesFrom line cs).take n := by
  induction cs with
  | nil =>
      intro line n hn
      have hzero : n = 0 := by simpa using hn
      simp [hzero]
  | cons c rest ih =>
      intro line n hn
      rw [List.cons_append, linesFrom, linesFrom]
      by_cases hc : c = '\n'
      · rw [if_pos hc, if_pos hc]
        cases n with
        | zero => rfl
        | succ n =>
            have hrest : n ≤ rest.count '\n' := by simpa [hc] using hn
            rw [List.take_succ_cons, List.take_succ_cons, ih [] n hrest]
      · have hrest : n ≤ rest.count '\n' := by simpa [hc] using hn
        rw [if_neg hc, if_neg hc, ih (c :: line) n hrest]

end CodeAtlas.Text

namespace CodeAtlas.Crawl

open CodeAtlas.Text

/-! ### Lines of prose -/

/-- What begins and ends a block of code. -/
def fence : List Char := "\x60\x60\x60".toList

/-- A line begins like a heading, a link or a table. -/
def Marked (line : List Char) : Prop :=
  line.head? = some '#' ∨ line.head? = some '[' ∨ line.head? = some '|'

instance (line : List Char) : Decidable (Marked line) :=
  inferInstanceAs (Decidable (_ ∨ _))

theorem prose_cons (inCode : Bool) (line : List Char) (rest : List (List Char)) : prose inCode (line :: rest) =
    if line = [] then prose inCode rest
    else if fence <+: line then prose (!inCode) rest
    else if inCode = true ∨ Marked line then prose inCode rest
    else line :: prose inCode rest := by
  simp only [prose, List.isEmpty_iff, List.isPrefixOf_iff_prefix, Bool.or_eq_true, beq_iff_eq, or_assoc]
  rfl

/-- What is chosen as prose is one of the lines, and nothing in it says otherwise. -/
theorem mem_prose {line : List Char} : ∀ {trimmed : List (List Char)} {inCode : Bool}, line ∈ prose inCode trimmed →
    line ∈ trimmed ∧ line ≠ [] ∧ ¬ fence <+: line ∧ ¬ Marked line := by
  intro trimmed
  induction trimmed with
  | nil => intro inCode h; cases h
  | cons l rest ih =>
      intro inCode h
      have hrest : ∀ {b : Bool}, line ∈ prose b rest →
          line ∈ l :: rest ∧ line ≠ [] ∧ ¬ fence <+: line ∧ ¬ Marked line :=
        fun hmem => ⟨List.mem_cons_of_mem _ (ih hmem).1, (ih hmem).2⟩
      rw [prose_cons] at h
      by_cases hempty : l = []
      · rw [if_pos hempty] at h
        exact hrest h
      by_cases hfence : fence <+: l
      · rw [if_neg hempty, if_pos hfence] at h
        exact hrest h
      by_cases hmarked : inCode = true ∨ Marked l
      · rw [if_neg hempty, if_neg hfence, if_pos hmarked] at h
        exact hrest h
      · rw [if_neg hempty, if_neg hfence, if_neg hmarked, List.mem_cons] at h
        rcases h with rfl | h
        · exact ⟨List.mem_cons_self, hempty, hfence, fun hl => hmarked (Or.inr hl)⟩
        · exact hrest h

/-- A line that is chosen as prose and kept as it is. -/
structure IsProse (line : List Char) : Prop where
  nonempty : line ≠ []
  noFence : ¬ fence <+: line
  unmarked : ¬ Marked line
  trimmed : trimList line = line
  oneLine : '\n' ∉ line

theorem trimList_eq_self_iff {line : List Char} :
    trimList line = line ↔ line.head?.any isBlank = false ∧ line.getLast?.any isBlank = false :=
  stripBoth_eq_self_iff

theorem isProse_of_mem {content : List Char} {n : Nat} {inCode : Bool} {line : List Char}
    (h : line ∈ prose inCode (((lines content).take n).map trimList)) : IsProse line := by
  obtain ⟨hmem, hnonempty, hfence, hmarked⟩ := mem_prose h
  obtain ⟨whole, hwhole, rfl⟩ := List.mem_map.mp hmem
  refine ⟨hnonempty, hfence, hmarked, trimList_eq_self_iff.mpr (ends_stripBoth whole), fun hfeed => ?_⟩
  exact newline_not_mem_lines (List.mem_of_mem_take hwhole) ((peeled_trimList whole).isInfix.subset hfeed)

/-! ### Joining and cutting -/

/-- A mark at the start of a text stands before any character that is not part of it. -/
theorem isPrefix_of_append_cons {mark a b : List Char} {c : Char} (hc : c ∉ mark) (h : mark <+: a ++ c :: b) :
    mark <+: a := by
  rcases List.prefix_or_prefix_of_prefix h (List.prefix_append a (c :: b)) with hshort | ⟨rest, hrest⟩
  · exact hshort
  · cases rest with
    | nil => exact ⟨[], by simpa using hrest.symm⟩
    | cons d rest =>
        rw [← hrest, List.prefix_append_right_inj, List.cons_prefix_cons] at h
        exact absurd (by rw [← hrest, h.1]; simp) hc

/-- Two lines of prose make one. -/
theorem IsProse.join {a b : List Char} (ha : IsProse a) (hb : IsProse b) : IsProse (a ++ ' ' :: b) := by
  have hhead : (a ++ ' ' :: b).head? = a.head? := List.head?_append_of_ne_nil a ha.nonempty
  have hlast : (a ++ ' ' :: b).getLast? = b.getLast? := by
    rw [List.getLast?_append_of_ne_nil _ (by simp), List.getLast?_cons_of_ne_nil hb.nonempty]
  refine ⟨by simp, fun h => ha.noFence (isPrefix_of_append_cons (by decide) h), ?_, ?_, ?_⟩
  · unfold Marked
    rw [hhead]
    exact ha.unmarked
  · rw [trimList_eq_self_iff, hhead, hlast]
    exact ⟨(trimList_eq_self_iff.mp ha.trimmed).1, (trimList_eq_self_iff.mp hb.trimmed).2⟩
  · simp [ha.oneLine, hb.oneLine]

theorem IsProse.intercalate {first : List Char} {rest : List (List Char)} (hfirst : IsProse first)
    (hrest : ∀ line ∈ rest, IsProse line) : IsProse ([' '].intercalate (first :: rest)) := by
  induction rest generalizing first with
  | nil => simpa using hfirst
  | cons second rest ih =>
      rw [List.forall_mem_cons] at hrest
      have hjoined := hfirst.join (ih hrest.1 hrest.2)
      simpa [List.intercalate_cons_cons] using hjoined

theorem shorten_of_le {text : List Char} (h : text.length ≤ summaryChars) : shorten text = text :=
  if_neg (Nat.not_lt.mpr h)

theorem shorten_of_lt {text : List Char} (h : summaryChars < text.length) :
    shorten text = text.take summaryChars ++ ['.', '.', '.'] :=
  if_pos h

/-- What is cut has at most its ellipsis more than it may have. -/
theorem length_shorten_le (text : List Char) : (shorten text).length ≤ summaryChars + 3 := by
  by_cases h : summaryChars < text.length
  · rw [shorten_of_lt h, List.length_append, List.length_take_of_le (Nat.le_of_lt h)]
    rfl
  · rw [shorten_of_le (Nat.le_of_not_lt h)]
    omega

/-- Cutting a text that was cut puts the same ellipsis in the same place. -/
theorem shorten_shorten (text : List Char) : shorten (shorten text) = shorten text := by
  by_cases h : summaryChars < text.length
  · have hcut : (text.take summaryChars).length = summaryChars := List.length_take_of_le (Nat.le_of_lt h)
    have hlong : summaryChars < (shorten text).length := by simp [shorten_of_lt h, hcut]
    rw [shorten_of_lt hlong, shorten_of_lt h, List.take_left' hcut]
  · rw [shorten_of_le (Nat.le_of_not_lt h), shorten_of_le (Nat.le_of_not_lt h)]

theorem IsProse.shorten {line : List Char} (hline : IsProse line) : IsProse (shorten line) := by
  by_cases h : summaryChars < line.length
  · have hcut : (line.take summaryChars).length = summaryChars := List.length_take_of_le (Nat.le_of_lt h)
    have hhead : (line.take summaryChars ++ ['.', '.', '.']).head? = line.head? := by
      have hne : line.take summaryChars ≠ [] := List.ne_nil_of_length_pos (by rw [hcut]; decide)
      rw [List.head?_append_of_ne_nil _ hne, List.head?_take, if_neg (by decide)]
    rw [shorten_of_lt h]
    refine ⟨by simp, fun hfence => hline.noFence ?_, ?_, ?_, ?_⟩
    · have hinside : fence <+: line.take summaryChars :=
        List.prefix_of_prefix_length_le hfence (List.prefix_append _ _) (by rw [hcut]; decide)
      exact hinside.trans (List.take_prefix _ _)
    · unfold Marked
      rw [hhead]
      exact hline.unmarked
    · rw [trimList_eq_self_iff, hhead]
      exact ⟨(trimList_eq_self_iff.mp hline.trimmed).1, by simp [isBlank]⟩
    · have hkept : '\n' ∉ line.take summaryChars := fun hmem => hline.oneLine (List.mem_of_mem_take hmem)
      simp [hkept]
  · rwa [shorten_of_le (Nat.le_of_not_lt h)]

/-! ### Summaries -/

/-- A summary is empty or one line of prose that was cut. -/
theorem summarize_cases (content : String) :
    summarize content = "" ∨ ∃ line, IsProse line ∧ summarize content = String.ofList (shorten line) := by
  unfold summarize
  simp only []
  have hprose : ∀ line ∈ (prose false (((lines content.toList).take scannedLines).map trimList)).take summaryLines,
      IsProse line := fun line hline => isProse_of_mem (List.mem_of_mem_take hline)
  cases hchosen : (prose false (((lines content.toList).take scannedLines).map trimList)).take summaryLines with
  | nil => exact Or.inl rfl
  | cons first rest =>
      rw [hchosen, List.forall_mem_cons] at hprose
      exact Or.inr ⟨_, hprose.1.intercalate hprose.2, rfl⟩

/-- A line of prose is summarised by cutting it. -/
theorem summarize_of_isProse {line : List Char} (h : IsProse line) :
    summarize (String.ofList line) = String.ofList (shorten line) := by
  have hchosen : prose false [line] = [line] := by
    rw [prose_cons, if_neg h.nonempty, if_neg h.noFence, if_neg (by simp [h.unmarked])]
    rfl
  have htake : ∀ {n : Nat}, 0 < n → [line].take n = [line] := fun hn => List.take_of_length_le hn
  unfold summarize
  simp only []
  rw [String.toList_ofList, lines_of_not_mem h.oneLine h.nonempty, htake (by decide), List.map_singleton, h.trimmed,
    hchosen, htake (by decide)]
  simp

theorem summarize_summarize (content : String) : summarize (summarize content) = summarize content := by
  rcases summarize_cases content with hempty | ⟨line, hline, hsummary⟩
  · rw [hempty]
    decide
  · rw [hsummary, summarize_of_isProse hline.shorten, shorten_shorten]

/-- A text is its own summary if and only if it is empty or a line of prose that need not be cut. -/
theorem summarize_eq_self_iff {content : String} : summarize content = content ↔
    content = "" ∨ IsProse content.toList ∧ shorten content.toList = content.toList := by
  constructor
  · intro h
    rcases summarize_cases content with hempty | ⟨line, hline, hsummary⟩
    · exact Or.inl (h.symm.trans hempty)
    · have hcontent : content.toList = shorten line := by rw [← h, hsummary, String.toList_ofList]
      rw [hcontent]
      exact Or.inr ⟨hline.shorten, shorten_shorten line⟩
  · rintro (hempty | ⟨hprose, hshort⟩)
    · rw [hempty]
      decide
    · have hsummary := summarize_of_isProse hprose
      rwa [hshort, String.ofList_toList] at hsummary

theorem summarize_congr {a b : String} (h : (lines a.toList).take scannedLines = (lines b.toList).take scannedLines) :
    summarize a = summarize b := by
  unfold summarize
  rw [h]

/-- **A summary is a short line that is its own summary**, and nothing matters to it but the first fifty lines.  The
texts that are their own summaries are the empty one and the lines of prose that need not be cut. -/
theorem summarize_stable (content : String) :
    summarize (summarize content) = summarize content ∧
      '\n' ∉ (summarize content).toList ∧
      (summarize content).length ≤ 503 ∧
      (∀ other : String, (lines other.toList).take 50 = (lines content.toList).take 50 →
        summarize other = summarize content) ∧
      (∀ more : String, 50 ≤ content.toList.count '\n' → summarize (content ++ more) = summarize content) ∧
      (summarize content = content ↔
        content = "" ∨ IsProse content.toList ∧ shorten content.toList = content.toList) := by
  refine ⟨summarize_summarize content, ?_, ?_, fun other => summarize_congr, fun more hlines => summarize_congr ?_,
    summarize_eq_self_iff⟩
  · rcases summarize_cases content with hempty | ⟨line, hline, hsummary⟩
    · simp [hempty]
    · rw [hsummary, String.toList_ofList]
      exact hline.shorten.oneLine
  · rcases summarize_cases content with hempty | ⟨line, -, hsummary⟩
    · simp [hempty]
    · rw [hsummary, String.length_ofList]
      exact length_shorten_le line
  · rw [String.toList_append]
    exact take_linesFrom_append content.toList more.toList [] scannedLines hlines

/-- A description with one line of prose among fifty. -/
def fiftyLines : List Char :=
  "A tool.\r\n".toList ++ (List.replicate 49 ['#', '\n']).flatten

theorem summarize_of_fifty_lines :
    50 ≤ (String.ofList fiftyLines).toList.count '\n' ∧
      summarize (String.ofList fiftyLines) = "A tool." ∧
      summarize (String.ofList fiftyLines ++ "It does things.") = summarize (String.ofList fiftyLines) ∧
      (lines "A tool.".toList).take 50 = (lines "A tool.\n".toList).take 50 ∧
      summarize "A tool." = summarize "A tool.\n" := by
  have hcount : 50 ≤ (String.ofList fiftyLines).toList.count '\n' := by
    rw [String.toList_ofList]
    decide +kernel
  have hsummary : summarize (String.ofList fiftyLines) = "A tool." := by
    unfold summarize
    rw [String.toList_ofList]
    decide +kernel
  have hlines : (lines "A tool.".toList).take 50 = (lines "A tool.\n".toList).take 50 := by decide +kernel
  exact ⟨hcount, hsummary, (summarize_stable _).2.2.2.2.1 _ hcount, hlines, (summarize_stable _).2.2.2.1 _ hlines⟩

end CodeAtlas.Crawl
