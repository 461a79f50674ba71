/-
What is kept of the string that documents a Python declaration.

A string is written with letters before it, between quotes of one of four kinds.  The
documentation is meant to be what stands between the quotes, without white space at its
ends.  But quotes are taken off one kind after the other, whichever the string was
written with, and every kind as often as it is there.  So quotes of the text itself go
as well, if they stand at its ends.

`Quoting.leaves` is what is left of the text then.  Nothing but quotes is ever lost, and
none is lost in two cases only: the text neither begins nor ends with a quote, or it was
written between single quotes, which are taken off last.
-/
import CodeAtlas.Language.Python.Reader
import CodeAtlas.Proofs.Parsing.Attribution
import CodeAtlas.Proofs.Text.Trimming

namespace CodeAtlas.Language.Python

open CodeAtlas.Graph
open CodeAtlas.Outline
open CodeAtlas.Syntax
open CodeAtlas.Text

/-! ### String literals -/

/-- How a string is quoted. -/
inductive Quoting where
  | tripleDouble
  | tripleSingle
  | double
  | single
deriving DecidableEq

/-- The character that the quotes are made of. -/
def Quoting.quote : Quoting → Char
  | tripleDouble | double => '"'
  | tripleSingle | single => '\''

/-- The quotes, which are the same at both ends. -/
def Quoting.mark : Quoting → String
  | tripleDouble => "\"\"\""
  | tripleSingle => "'''"
  | double => "\""
  | single => "'"

/-- A string as it is written: letters, quotes, and a text in which the quotes do not occur and that does not end
with one. -/
structure StringLiteral where
  letters : String
  quoting : Quoting
  content : String
  lettered : ∀ c ∈ letters.toList, isStringLetter c = true
  unclosed : ¬ quoting.mark.toList <:+: content.toList
  last : content.toList.getLast? ≠ some quoting.quote

/-- All of it. -/
def StringLiteral.text (l : StringLiteral) : String :=
  l.letters ++ l.quoting.mark ++ l.content ++ l.quoting.mark

/-- Quotes of either kind. -/
def isQuote (c : Char) : Bool :=
  c == '"' || c == '\''

/-! ### Taking off quotes -/

/-- Quotes around a text are taken off once. -/
theorem strip_around {mark content : List Char} {q : Char} (hmark : mark ≠ []) (hq : ∀ c ∈ mark, c = q)
    (hunclosed : ¬ mark <:+: content) (hlast : content.getLast? ≠ some q) :
    stripEnd mark (stripStart mark (mark ++ (content ++ mark))) = content := by
  have hnil : ¬ mark <+: [] := fun h => hmark (List.prefix_nil.mp h)
  by_cases hempty : content = []
  · -- The quotes of the end are taken for more of the beginning.
    have hboth := stripStart_append_mark hmark []
    rw [List.append_nil, stripStart_eq_self hnil] at hboth
    rw [hempty, List.nil_append, stripStart_append_mark hmark, hboth]
    exact stripEnd_eq_self fun h => hmark (List.suffix_nil.mp h)
  · have hstart : ¬ mark <+: content ++ mark := by
      intro h
      rcases Nat.le_total mark.length content.length with hle | hle
      · exact hunclosed ((List.isPrefix_append_of_length hle).mp h).isInfix
      · -- A short text would consist of quotes.
        have hshort : content <+: mark := List.prefix_of_prefix_length_le (List.prefix_append _ _) h hle
        have hmem := hshort.subset (List.getLast_mem hempty)
        exact hlast (by rw [List.getLast?_eq_some_getLast hempty, hq _ hmem])
    rw [stripStart_append_mark hmark, stripStart_eq_self hstart, stripEnd_append_mark hmark]
    exact stripEnd_eq_self fun h => hunclosed h.isInfix

/-- There are not three quotes in a row where another character or a text without quotes follows. -/
theorem not_three_at_start {q r : Char} (inner : List Char) (h : r = q → q ∉ inner) :
    ¬ [q, q, q] <+: r :: (inner ++ [r]) := by
  rw [List.cons_prefix_cons]
  rintro ⟨rfl, htwo⟩
  cases inner with
  | nil =>
      have hle := htwo.length_le
      simp at hle
  | cons c rest =>
      rw [List.cons_append, List.cons_prefix_cons] at htwo
      exact h rfl (htwo.1 ▸ List.mem_cons_self)

theorem strip_three_of_ends {q r : Char} (inner : List Char) (h : r = q → q ∉ inner) :
    stripEnd [q, q, q] (stripStart [q, q, q] (r :: (inner ++ [r]))) = r :: (inner ++ [r]) := by
  have hend : ¬ [q, q, q] <:+ r :: (inner ++ [r]) := by
    intro hsuffix
    -- Read backwards, the text has the same shape.
    have hstart := not_three_at_start inner.reverse (by simpa using h)
    exact hstart (by simpa using List.reverse_prefix.mpr hsuffix)
  rw [stripStart_eq_self (not_three_at_start inner h), stripEnd_eq_self hend]

/-- A single quote at each end is taken off. -/
theorem stripBoth_around {q : Char} {inner : List Char} (h : q ∉ inner) :
    stripBoth (· == q) (q :: (inner ++ [q])) = inner := by
  have hstart : (q :: (inner ++ [q])).dropWhile (· == q) = (inner ++ [q]).dropWhile (· == q) :=
    List.dropWhile_cons_of_pos (by simp)
  unfold stripBoth
  rw [hstart]
  cases inner with
  | nil =>
      rw [List.nil_append, List.dropWhile_cons_of_pos (by simp)]
      rfl
  | cons c rest =>
      have hc : c ≠ q := fun heq => h (heq ▸ List.mem_cons_self)
      have hlast := List.getLast?_eq_some_getLast (List.cons_ne_nil c rest)
      have hkept : (c :: rest).getLast (List.cons_ne_nil c rest) ≠ q := fun heq => h (heq ▸ List.getLast_mem _)
      rw [List.cons_append, List.dropWhile_cons_of_neg (by simpa using hc), ← List.cons_append,
        dropEndWhile_append_of_last hlast (by simpa using hkept), dropEndWhile_eq_rdropWhile, ← List.nil_append [q],
        List.rdropWhile_concat_pos _ _ _ (by simp), List.rdropWhile_nil, List.append_nil]

/-- What is left of the text between the quotes. -/
def Quoting.leaves : Quoting → List Char → List Char
  | tripleDouble, cs =>
    stripBoth (· == '\'') (stripBoth (· == '"') (stripEnd ['\'', '\'', '\''] (stripStart ['\'', '\'', '\''] cs)))
  | tripleSingle, cs => stripBoth (· == '\'') (stripBoth (· == '"') cs)
  | double, cs => stripBoth (· == '\'') cs
  | single, cs => cs

theorem not_mem_of_unclosed {q : Char} {cs : List Char} (h : ¬ [q] <:+: cs) : q ∉ cs := by
  intro hmem
  obtain ⟨before, after, rfl⟩ := List.append_of_mem hmem
  exact h ⟨before, after, by simp⟩

/-- **What becomes of a string.** -/
theorem unquote_text (l : StringLiteral) :
    unquote l.text = String.ofList (trimList (l.quoting.leaves l.content.toList)) := by
  obtain ⟨letters, quoting, content, hletters, hunclosed, hlast⟩ := l
  have hbare : (StringLiteral.text ⟨letters, quoting, content, hletters, hunclosed, hlast⟩).toList.dropWhile
      isStringLetter = quoting.mark.toList ++ (content.toList ++ quoting.mark.toList) := by
    simp only [StringLiteral.text, String.toList_append, List.append_assoc]
    rw [List.dropWhile_append_of_pos hletters]
    cases quoting <;> rfl
  unfold unquote
  simp only [hbare]
  clear hbare
  congr 2
  cases quoting with
  | tripleDouble =>
      have hmark : Quoting.tripleDouble.mark.toList = ['"', '"', '"'] := by decide
      rw [hmark] at hunclosed ⊢
      rw [strip_around (q := '"') (by simp) (by simp) hunclosed hlast]
      rfl
  | tripleSingle =>
      have hmark : Quoting.tripleSingle.mark.toList = ['\'', '\'', '\''] := by decide
      rw [hmark] at hunclosed ⊢
      have hshape : ['\'', '\'', '\''] ++ (content.toList ++ ['\'', '\'', '\'']) =
          '\'' :: (('\'' :: '\'' :: content.toList ++ ['\'', '\'']) ++ ['\'']) := by simp
      have hdouble := strip_three_of_ends (q := '"') (r := '\'')
        ('\'' :: '\'' :: content.toList ++ ['\'', '\'']) (fun h => absurd h (by decide))
      rw [← hshape] at hdouble
      rw [hdouble, strip_around (q := '\'') (by simp) (by simp) hunclosed hlast]
      rfl
  | double =>
      have hmark : Quoting.double.mark.toList = ['"'] := by decide
      rw [hmark] at hunclosed ⊢
      have hnot := not_mem_of_unclosed hunclosed
      rw [List.singleton_append, strip_three_of_ends _ (fun _ => hnot),
        strip_three_of_ends _ (fun h => absurd h (by decide)), stripBoth_around hnot]
      rfl
  | single =>
      have hmark : Quoting.single.mark.toList = ['\''] := by decide
      rw [hmark] at hunclosed ⊢
      have hnot := not_mem_of_unclosed hunclosed
      have hdouble : stripBoth (· == '"') ('\'' :: (content.toList ++ ['\''])) = '\'' :: (content.toList ++ ['\'']) := by
        refine stripBoth_eq_self_iff.mpr ⟨rfl, ?_⟩
        rw [← List.cons_append, List.getLast?_concat]
        rfl
      rw [List.singleton_append, strip_three_of_ends _ (fun h => absurd h (by decide)),
        strip_three_of_ends _ (fun _ => hnot), hdouble, stripBoth_around hnot]
      rfl

/-! ### What is lost -/

theorem isQuote_of_double (c : Char) (h : (c == '"') = true) : isQuote c = true := by
  simp [isQuote, h]

theorem isQuote_of_single (c : Char) (h : (c == '\'') = true) : isQuote c = true := by
  simp [isQuote, h]

theorem isQuote_of_isBlank (c : Char) (h : isBlank c = true) : isQuote c = false := by
  by_contra hquote
  simp only [isQuote, Bool.not_eq_false, Bool.or_eq_true, beq_iff_eq] at hquote
  rcases hquote with rfl | rfl
  · exact absurd h (by decide)
  · exact absurd h (by decide)

theorem peeled_three (cs : List Char) :
    Peeled isQuote (stripEnd ['\'', '\'', '\''] (stripStart ['\'', '\'', '\''] cs)) cs :=
  (peeled_stripEnd (by simp [isQuote]) _).trans (peeled_stripStart (by simp [isQuote]) cs)

/-- Nothing but quotes is lost. -/
theorem peeled_leaves (quoting : Quoting) (cs : List Char) : Peeled isQuote (quoting.leaves cs) cs := by
  have hdouble := peeled_stripBoth isQuote_of_double
  have hsingle := peeled_stripBoth isQuote_of_single
  cases quoting with
  | tripleDouble => exact (hsingle _).trans ((hdouble _).trans (peeled_three cs))
  | tripleSingle => exact (hsingle _).trans (hdouble cs)
  | double => exact hsingle cs
  | single => exact Peeled.refl cs

/-- The text neither begins nor ends with a quote. -/
def HasBareEnds (cs : List Char) : Prop :=
  cs.head?.any isQuote = false ∧ cs.getLast?.any isQuote = false

instance (cs : List Char) : Decidable (HasBareEnds cs) :=
  inferInstanceAs (Decidable (_ ∧ _))

theorem hasBareEnds_iff {cs : List Char} :
    HasBareEnds cs ↔ stripBoth (· == '"') cs = cs ∧ stripBoth (· == '\'') cs = cs := by
  have hquote : ∀ o : Option Char,
      o.any isQuote = false ↔ o.any (· == '"') = false ∧ o.any (· == '\'') = false := by
    intro o
    cases o with
    | none => simp
    | some c => simp [isQuote]
  rw [HasBareEnds, stripBoth_eq_self_iff, stripBoth_eq_self_iff, hquote, hquote]
  exact and_and_and_comm

/-- Three quotes are lost only where there is a quote. -/
theorem three_of_hasBareEnds {cs : List Char} (h : HasBareEnds cs) :
    stripEnd ['\'', '\'', '\''] (stripStart ['\'', '\'', '\''] cs) = cs := by
  have hstart : ¬ ['\'', '\'', '\''] <+: cs := by
    rintro ⟨rest, rfl⟩
    exact absurd h.1 (by simp [isQuote])
  have hend : ¬ ['\'', '\'', '\''] <:+ cs := by
    rintro ⟨rest, rfl⟩
    exact absurd h.2 (by simp [isQuote])
  rw [stripStart_eq_self hstart, stripEnd_eq_self hend]

theorem leaves_eq_self_iff (l : StringLiteral) :
    l.quoting.leaves l.content.toList = l.content.toList ↔
      l.quoting = .single ∨ HasBareEnds l.content.toList := by
  obtain ⟨letters, quoting, content, hletters, hunclosed, hlast⟩ := l
  have hdouble : ∀ x, stripBoth (· == '"') x <:+: x := fun x => (peeled_stripBoth isQuote_of_double x).isInfix
  have hsingle : ∀ x, stripBoth (· == '\'') x <:+: x := fun x => (peeled_stripBoth isQuote_of_single x).isInfix
  have hthree : ∀ x, stripEnd ['\'', '\'', '\''] (stripStart ['\'', '\'', '\''] x) <:+: x := fun x =>
    (peeled_three x).isInfix
  cases quoting with
  | tripleDouble =>
      simp only [Quoting.leaves, reduceCtorEq, false_or]
      rw [comp_eq_self_iff hsingle (fun x => (hdouble _).trans (hthree x)), comp_eq_self_iff hdouble hthree]
      constructor
      · rintro ⟨⟨-, hnoDouble⟩, hnoSingle⟩
        exact hasBareEnds_iff.mpr ⟨hnoDouble, hnoSingle⟩
      · intro hbare
        obtain ⟨hnoDouble, hnoSingle⟩ := hasBareEnds_iff.mp hbare
        exact ⟨⟨three_of_hasBareEnds hbare, hnoDouble⟩, hnoSingle⟩
  | tripleSingle =>
      simp only [Quoting.leaves, reduceCtorEq, false_or]
      rw [comp_eq_self_iff hsingle hdouble, hasBareEnds_iff]
  | double =>
      -- There are no double quotes in the text to begin with.
      have hnone : ∀ o : Option Char, (∀ c, o = some c → c ∈ content.toList) → o.any (· == '"') = false := by
        intro o hmem
        cases o with
        | none => rfl
        | some c =>
            have hc : c ≠ '"' := fun heq => not_mem_of_unclosed (q := '"') hunclosed (heq ▸ hmem c rfl)
            exact beq_eq_false_iff_ne.mpr hc
      have hwhole : stripBoth (· == '"') content.toList = content.toList :=
        stripBoth_eq_self_iff.mpr ⟨hnone _ fun _ => List.mem_of_head?, hnone _ fun _ => List.mem_of_getLast?⟩
      simp only [Quoting.leaves, reduceCtorEq, false_or]
      rw [hasBareEnds_iff]
      exact ⟨fun h => ⟨hwhole, h⟩, And.right⟩
  | single => simp [Quoting.leaves]

/-- White space makes no difference to what is lost. -/
theorem trimList_leaves_eq_iff (quoting : Quoting) (cs : List Char) :
    trimList (quoting.leaves cs) = trimList cs ↔ quoting.leaves cs = cs := by
  constructor
  · intro h
    refine (peeled_leaves quoting cs).eq_of_filter_eq ?_
    calc (quoting.leaves cs).filter isQuote
        = (trimList (quoting.leaves cs)).filter isQuote :=
          ((peeled_trimList _).filter_eq isQuote_of_isBlank).symm
      _ = (trimList cs).filter isQuote := by rw [h]
      _ = cs.filter isQuote := (peeled_trimList cs).filter_eq isQuote_of_isBlank
  · intro h
    rw [h]

/-! ### Declarations with documentation -/

/-- The body of a declaration begins with the string. -/
structure BeginsWith (source : Source) (l : StringLiteral) (body statement string : Node) : Prop where
  first : body.namedChildren.head? = some statement
  isStatement : statement.kind = "expression_statement"
  alone : statement.namedChildren.head? = some string
  isString : string.kind = "string"
  text : source.textOf string = l.text

/-- A function or class with a name stands at the site, and its body begins with the string. -/
structure Documented (source : Source) (l : StringLiteral) (s : Site) (name : String) : Prop where
  declares : s.kind = "function_definition" ∨ s.kind = "class_definition"
  named : source.fieldText? s.node "name" = some name
  documented : ∃ body statement string, s.child? "body" = some body ∧
    BeginsWith source l body.val.node statement string

theorem docstring?_of_beginsWith {source : Source} {l : StringLiteral} {body statement string : Node}
    (h : BeginsWith source l body statement string) : docstring? source body = some (unquote l.text) := by
  obtain ⟨rest, hfirst⟩ := List.head?_eq_some_iff.mp h.first
  obtain ⟨others, halone⟩ := List.head?_eq_some_iff.mp h.alone
  unfold docstring?
  simp only [hfirst, h.isStatement, halone, h.isString, h.text, beq_self_eq_true, if_true]

/-- What is found where a declaration with documentation stands. -/
theorem read_of_documented {source : Source} {l : StringLiteral} {s : Site} {name : String}
    (h : Documented source l s name) (context : Context) : ∃ e references body isFunction,
    read source context s = [.scope e references body isFunction] ∧ e.name = name ∧
    e.lineStart = s.start.row + 1 ∧ e.columnStart = s.start.column ∧ e.docstring = some (unquote l.text) := by
  obtain ⟨body, statement, string, hbody, hbegins⟩ := h.documented
  have hdocstring := docstring?_of_beginsWith hbegins
  rcases h.declares with hkind | hkind
  · have hread : read source context s = function source context s := by simp only [read, hkind]
    rw [hread]
    unfold function
    simp only [h.named, hbody]
    exact ⟨_, _, _, _, rfl, rfl, rfl, rfl, hdocstring⟩
  · have hread : read source context s = classDefinition source context s := by simp only [read, hkind]
    rw [hread]
    unfold classDefinition
    simp only [h.named, hbody]
    exact ⟨_, _, _, _, rfl, rfl, rfl, rfl, hdocstring⟩

end CodeAtlas.Language.Python

namespace CodeAtlas.Parsing

open CodeAtlas.Language.Python
open CodeAtlas.Outline
open CodeAtlas.Syntax
open CodeAtlas.Text

/--
**What is recorded of the string that documents a declaration**, wherever in a file the
walk comes to one.  It is the text between the quotes without white space at its ends,
and without some quotes at its ends.  No quotes of the text are lost if and only if it
stands between single quotes, or neither begins nor ends with a quote.
-/
theorem docstring_of_string_literal (limit : Option Nat) (source : Source) (tree : Node) (v : Stage)
    (hv : Reaches (Language.python.read source) limit tree v) (l : StringLiteral) (name : String)
    (h : Documented source l v.site name) :
    ∃ e ∈ (Language.python.extract limit source tree).elements,
      e.name = name ∧ e.lineStart = v.site.start.row + 1 ∧ e.columnStart = v.site.start.column ∧
      e.docstring = some (trim (String.ofList (l.quoting.leaves l.content.toList))) ∧
      Peeled isQuote (l.quoting.leaves l.content.toList) l.content.toList ∧
      (e.docstring = some (trim l.content) ↔ l.quoting = .single ∨ HasBareEnds l.content.toList) := by
  obtain ⟨e, references, body, isFunction, hread, hname, hline, hcolumn, hdocstring⟩ :=
    read_of_documented h v.context
  have hfound : Finding.scope e references body isFunction ∈ v.findings (Language.python.read source) := by
    show _ ∈ read source v.context v.site
    rw [hread]
    exact List.mem_singleton_self _
  obtain ⟨children, hmem⟩ := Stage.mem_elements_of_scope hfound
  rw [unquote_text] at hdocstring
  refine ⟨_, hv.elements_subset hmem, hname, hline, hcolumn, ?_, peeled_leaves _ _, ?_⟩
  · show e.docstring = _
    rw [hdocstring, trim, String.toList_ofList]
  · show e.docstring = _ ↔ _
    rw [hdocstring, trim, Option.some_inj, String.ofList_inj, trimList_leaves_eq_iff, leaves_eq_self_iff]

/-- The tree of a function `f` on one line with a string as its body, which ends at the given column.  The parts of
the string are left out. -/
def Line.documentedFunction (l : Line) (last : Nat) : Node :=
  l.node "function_definition" none 0 last [
    l.sign "def" 0,
    l.node "identifier" (some "name") 4 5 [],
    l.node "parameters" (some "parameters") 5 7 [l.sign "(" 5, l.sign ")" 6],
    l.sign ":" 7,
    l.node "block" (some "body") 9 last [
      l.node "expression_statement" none 9 last [l.node "string" none 9 last []]]]

/-- The first function of a file. -/
theorem documented_function (source : Source) (l : StringLiteral) (last : Nat)
    (hname : String.Pos.Raw.extract source.text ⟨4⟩ ⟨5⟩ = "f")
    (htext : String.Pos.Raw.extract source.text ⟨9⟩ ⟨last⟩ = l.text) :
    let tree := moduleOf [(⟨0, 0⟩ : Line).documentedFunction last]
    ∃ v, Reaches (Language.python.read source) (some depthLimit) tree v ∧ Documented source l v.site "f" := by
  intro tree
  let f := (⟨0, 0⟩ : Line).documentedFunction last
  have hstring : source.textOf ((⟨0, 0⟩ : Line).node "string" none 9 last []) = l.text := by
    show String.Pos.Raw.extract source.text ⟨9⟩ ⟨0 + last⟩ = l.text
    rw [Nat.zero_add, htext]
  refine ⟨⟨some 511, ⟨none, false⟩, .child f [] (.root tree)⟩, ⟨_, List.mem_singleton_self _, .here _⟩, ?_⟩
  exact {
    declares := Or.inl rfl
    named := congrArg some hname
    documented := ⟨_, _, _, rfl, {
      first := rfl
      isStatement := rfl
      alone := rfl
      isString := rfl
      text := hstring }⟩ }

/-- `r"""it's "so" """` -/
def quotedInside : StringLiteral where
  letters := "r"
  quoting := .tripleDouble
  content := "it's \"so\" "
  lettered := List.all_eq_true.mp (by decide)
  unclosed := by decide
  last := by decide

/-- Quotes inside the text are kept, and so are those at its end before white space. -/
theorem docstring_of_quotedInside :
    let source : Source := ⟨"a.py", "def f(): r\"\"\"it's \"so\" \"\"\"\n"⟩
    let tree := moduleOf [(⟨0, 0⟩ : Line).documentedFunction 26]
    ∃ v, Reaches (Language.python.read source) (some depthLimit) tree v ∧
      Documented source quotedInside v.site "f" ∧
      ∃ e ∈ (Language.python.extract (some depthLimit) source tree).elements,
        e.name = "f" ∧ e.docstring = some "it's \"so\"" := by
  intro source tree
  obtain ⟨v, hv, hdocumented⟩ := documented_function source quotedInside 26 (by decide +kernel)
    (by decide +kernel)
  refine ⟨v, hv, hdocumented, ?_⟩
  obtain ⟨e, hmem, hname, -, -, -, -, hkept⟩ :=
    docstring_of_string_literal (some depthLimit) source tree v hv quotedInside "f" hdocumented
  exact ⟨e, hmem, hname, (hkept.mpr (Or.inr (by decide))).trans (by decide +kernel)⟩

/-- `"""'a' b"""` -/
def quotedFirst : StringLiteral where
  letters := ""
  quoting := .tripleDouble
  content := "'a' b"
  lettered := List.all_eq_true.mp (by decide)
  unclosed := by decide
  last := by decide

/-- A quote with which the text begins is lost. -/
theorem docstring_loses_first_quote :
    let source : Source := ⟨"a.py", "def f(): \"\"\"'a' b\"\"\"\n"⟩
    let tree := moduleOf [(⟨0, 0⟩ : Line).documentedFunction 20]
    (∃ v, Reaches (Language.python.read source) (some depthLimit) tree v ∧
      Documented source quotedFirst v.site "f") ∧
    (Language.python.extract (some depthLimit) source tree).elements.map (·.docstring) = [some "a' b"] ∧
    trim quotedFirst.content = "'a' b" := by
  intro source tree
  exact ⟨documented_function source quotedFirst 20 (by decide +kernel) (by decide +kernel), by decide +kernel,
    by decide +kernel⟩

end CodeAtlas.Parsing
