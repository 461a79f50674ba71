/-
What the extraction of a file is like, whichever way the file was read.

A grammar turns a syntax tree into an extraction that is nested, and closed unless
it is that of Rust.  Patterns find declarations that stand side by side, so there
is nothing to be nested or closed; their elements belong to the file like all
others.
-/
import CodeAtlas.Parsing.Strategy
import CodeAtlas.Proofs.Language.Members
import CodeAtlas.Proofs.Language.Readers

namespace CodeAtlas.Parsing

open CodeAtlas.Graph
open CodeAtlas.Graph.Extraction
open CodeAtlas.Outline

/-- The languages in which every declaration stands where it belongs. -/
def directGrammars : List Support :=
  [Language.python, Language.javascript, Language.java]

/-- The extraction `x` of the file `path` was made from a syntax tree by one of some grammars. -/
def ByGrammar (grammars : List Support) (path : String) (x : Extraction) : Prop :=
  ∃ support ∈ grammars, ∃ limit text tree, x = support.extract limit ⟨path, text⟩ tree

/-- The extraction `x` of the file `path` was made by patterns. -/
def ByPatterns (path : String) (x : Extraction) : Prop :=
  ∃ text language, x = Pattern.extract text language path

/-! ### By grammars -/

theorem direct_places {support : Support} (h : support ∈ directGrammars) (source : Source) :
    (support.read source).Places source.path ∧ (support.read source).Direct ∧ support.complete = id := by
  simp only [directGrammars, List.mem_cons, List.not_mem_nil, or_false] at h
  rcases h with rfl | rfl | rfl
  · exact ⟨fun context s f hf => (Language.Python.read_fits source context s f hf).1,
      fun context s f hf => (Language.Python.read_fits source context s f hf).2, rfl⟩
  · exact ⟨fun context s f hf => (Language.JavaScript.read_fits source context s f hf).1,
      fun context s f hf => (Language.JavaScript.read_fits source context s f hf).2, rfl⟩
  · exact ⟨fun context s f hf => (Language.Java.read_fits source context s f hf).1,
      fun context s f hf => (Language.Java.read_fits source context s f hf).2, rfl⟩

theorem mem_allGrammars {support : Support} :
    support ∈ allGrammars ↔ support ∈ directGrammars ∨ support = Language.rust := by
  show support ∈ directGrammars ++ [Language.rust] ↔ _
  rw [List.mem_append, List.mem_singleton]

theorem rust_outline_nested (limit : Option Nat) (source : Source) (tree : Syntax.Node) :
    Nested source.path none (extractionAll (ofTree (Language.Rust.read source) limit tree)) :=
  ofTree_nested (Language.Rust.read_placed source) limit tree

theorem ByGrammar.nested {path : String} {x : Extraction} (h : ByGrammar allGrammars path x) :
    Nested path none x := by
  obtain ⟨support, hs, limit, text, tree, rfl⟩ := h
  unfold Support.extract
  rcases mem_allGrammars.mp hs with hd | rfl
  · obtain ⟨hplaces, -, hid⟩ := direct_places hd ⟨path, text⟩
    rw [hid]
    exact ofTree_nested hplaces limit tree
  · exact Language.Rust.nested_linkMembers (rust_outline_nested limit ⟨path, text⟩ tree)

theorem ByGrammar.closed {path : String} {x : Extraction} (h : ByGrammar directGrammars path x) :
    Closed x := by
  obtain ⟨support, hs, limit, text, tree, rfl⟩ := h
  obtain ⟨hplaces, hdirect, hid⟩ := direct_places hs ⟨path, text⟩
  unfold Support.extract
  rw [hid]
  exact ofTree_closed hplaces hdirect limit tree

theorem ByGrammar.of_direct {path : String} {x : Extraction} (h : ByGrammar directGrammars path x) :
    ByGrammar allGrammars path x := by
  obtain ⟨support, hs, hx⟩ := h
  exact ⟨support, mem_allGrammars.mpr (Or.inl hs), hx⟩

/-- A type declared in a file of Rust lists all that the file says it contains. -/
theorem ByGrammar.rust_listed {path : String} {x : Extraction} (h : ByGrammar [Language.rust] path x)
    {d : Element} (hd : d ∈ x.elements) (hkind : d.kind = .classLike) {c : String}
    (hr : (⟨d.id, c, .contains⟩ : Relationship) ∈ x.relationships) : c ∈ d.childIds := by
  obtain ⟨support, hs, limit, text, tree, rfl⟩ := h
  rw [List.mem_singleton.mp hs] at hd hr
  obtain ⟨e, -, rfl⟩ := Language.Rust.mem_linkMembers.mp hd
  rw [Language.Rust.linkElement_kind] at hkind
  rw [Language.Rust.linkElement_id] at hr
  exact Language.Rust.mem_childIds_linkElement.mpr (Or.inr ⟨hkind, hr⟩)

/-! ### By patterns -/

theorem ByPatterns.relationships_eq {path : String} {x : Extraction} (h : ByPatterns path x) :
    x.relationships = [] ∧ x.references = [] := by
  obtain ⟨text, language, rfl⟩ := h
  unfold Pattern.extract
  cases Pattern.patterns? language with
  | none => exact ⟨rfl, rfl⟩
  | some set => exact ⟨rfl, rfl⟩

/-! ### By a parser -/

/-- The parser reads trees the way one of the known languages does.  How its grammars make trees of texts is left
open. -/
def Parser.ReadsKnown (p : Parser) : Prop :=
  ∀ support ∈ p.grammars, ∃ known ∈ allGrammars, support.read = known.read ∧ support.complete = known.complete

theorem Parser.standard_readsKnown : Parser.standard.ReadsKnown :=
  fun support hs => ⟨support, hs, rfl, rfl⟩

theorem Parser.withGrammar_origin {p : Parser} (h : p.ReadsKnown) {language : String} {source : Source}
    {x : Extraction} (hx : p.withGrammar language source = .ok x) : ByGrammar allGrammars source.path x := by
  unfold Parser.withGrammar at hx
  split at hx
  · cases hx
  · next support hsupport =>
    split at hx
    · cases hx
    · next parsed _ =>
      split at hx
      · cases hx
      · cases hx
        obtain ⟨known, hknown, hread, hcomplete⟩ := h support (List.mem_of_find?_eq_some hsupport)
        refine ⟨known, hknown, some depthLimit, source.text, parsed.tree, ?_⟩
        unfold Support.extract
        rw [hread, hcomplete]

/-- **What a parser makes of a file was made by a grammar or by patterns.** -/
theorem Parser.run_origin {p : Parser} (h : p.ReadsKnown) (language : String) (source : Source) :
    ByGrammar allGrammars source.path (p.run language source).1 ∨
      ByPatterns source.path (p.run language source).1 := by
  unfold Parser.run
  split
  · next x hx => exact Or.inl (withGrammar_origin h hx)
  · exact Or.inr ⟨source.text, language, rfl⟩

/-! ### Short lines

The trees of declarations of Python and Rust that stand on one line, at which
statements about whole builds are tried out.  Names are single letters.
-/

/-- A line of a text: its number, and where it begins. -/
structure Line where
  row : Nat
  offset : Nat

namespace Line

/-- The stretch of a line between two columns. -/
def span (l : Line) (first last : Nat) : Text.Span :=
  ⟨⟨l.offset + first, l.row, first⟩, ⟨l.offset + last, l.row, last⟩⟩

/-- A named node between two columns. -/
def node (l : Line) (kind : String) (field : Option String) (first last : Nat) (children : List Syntax.Node) :
    Syntax.Node :=
  .mk kind true field (l.span first last) children

/-- A keyword or sign at a column. -/
def sign (l : Line) (text : String) (column : Nat) : Syntax.Node :=
  .mk text false none (l.span column (column + text.length)) []

/-- The tree of `x = 1` at a column. -/
def assignment (l : Line) (column : Nat) : Syntax.Node :=
  l.node "expression_statement" none column (column + 5) [
    l.node "assignment" none column (column + 5) [
      l.node "identifier" (some "left") column (column + 1) [],
      l.sign "=" (column + 2),
      l.node "integer" (some "right") (column + 4) (column + 5) []]]

/-- The tree of `class A: x = 1`. -/
def classDefinition (l : Line) : Syntax.Node :=
  l.node "class_definition" none 0 14 [
    l.sign "class" 0,
    l.node "identifier" (some "name") 6 7 [],
    l.sign ":" 7,
    l.node "block" (some "body") 9 14 [l.assignment 9]]

/-- The tree of `class A(B): x = 1`. -/
def derivedClass (l : Line) : Syntax.Node :=
  l.node "class_definition" none 0 17 [
    l.sign "class" 0,
    l.node "identifier" (some "name") 6 7 [],
    l.node "argument_list" (some "superclasses") 7 10 [
      l.sign "(" 7, l.node "identifier" none 8 9 [], l.sign ")" 9],
    l.sign ":" 10,
    l.node "block" (some "body") 12 17 [l.assignment 12]]

/-- The tree of `def f(): pass`. -/
def functionDefinition (l : Line) : Syntax.Node :=
  l.node "function_definition" none 0 13 [
    l.sign "def" 0,
    l.node "identifier" (some "name") 4 5 [],
    l.node "parameters" (some "parameters") 5 7 [l.sign "(" 5, l.sign ")" 6],
    l.sign ":" 7,
    l.node "block" (some "body") 9 13 [l.node "pass_statement" none 9 13 [l.sign "pass" 9]]]

/-- The tree of `{fn f() {}}` at a column. -/
def rustBody (l : Line) (column : Nat) : Syntax.Node :=
  l.node "declaration_list" (some "body") column (column + 11) [
    l.sign "\x7b" column,
    l.node "function_item" none (column + 1) (column + 10) [
      l.sign "fn" (column + 1),
      l.node "identifier" (some "name") (column + 4) (column + 5) [],
      l.node "parameters" (some "parameters") (column + 5) (column + 7) [
        l.sign "(" (column + 5), l.sign ")" (column + 6)],
      l.node "block" (some "body") (column + 8) (column + 10) [
        l.sign "\x7b" (column + 8), l.sign "\x7d" (column + 9)]],
    l.sign "\x7d" (column + 10)]

/-- The tree of `struct A;`. -/
def structItem (l : Line) : Syntax.Node :=
  l.node "struct_item" none 0 9 [
    l.sign "struct" 0,
    l.node "type_identifier" (some "name") 7 8 [],
    l.sign ";" 8]

/-- The tree of an implementation of `A` with one function, as in `impl A {fn f() {}}`. -/
def implItem (l : Line) : Syntax.Node :=
  l.node "impl_item" none 0 18 [
    l.sign "impl" 0,
    l.node "type_identifier" (some "type") 5 6 [],
    l.rustBody 7]

/-- The tree of a module with one function, as in `mod m {fn f() {}}`. -/
def modItem (l : Line) : Syntax.Node :=
  l.node "mod_item" none 0 17 [
    l.sign "mod" 0,
    l.node "identifier" (some "name") 4 5 [],
    l.rustBody 6]

end Line

/-- The tree of a file with the given declarations. -/
def moduleOf (declarations : List Syntax.Node) : Syntax.Node :=
  .mk "module" true none ⟨.zero, (declarations.getLast?.map Syntax.Node.stop).getD .zero⟩ declarations

end CodeAtlas.Parsing
