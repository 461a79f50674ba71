import CodeAtlas.Grammar.Rule

/-!
The grammar of Rust.
-/
namespace CodeAtlas.Language.Rust

open CodeAtlas.Grammar

/-! ### Words and levels of binding -/

/-- The types of numbers. -/
def numericTypes : List String := [
  "u8", "i8", "u16", "i16", "u32", "i32", "u64", "i64", "u128", "i128", "isize", "usize", "f32", "f64"]

/-- One of the built-in types. -/
def primitiveType : Rule :=
  choice ((numericTypes ++ ["bool", "str", "char"]).map Rule.text)

/-- Signs that mean nothing special among the tokens of a macro. -/
def plainSigns : List String := [
  "+", "-", "*", "/", "%", "^", "!", "&", "|", "&&", "||", "<<", ">>", "+=", "-=", "*=", "/=", "%=",
  "^=", "&=", "|=", "<<=", ">>=", "=", "==", "!=", ">", "<", ">=", "<=", "@", "_", ".", "..", "...",
  "..=", ",", ";", ":", "::", "->", "=>", "#", "?"]

/-- Words that mean nothing special among the tokens of a macro. -/
def plainWords : List String := [
  "as", "async", "await", "break", "const", "continue", "default", "enum", "fn", "for", "gen", "if",
  "impl", "let", "loop", "match", "mod", "pub", "return", "static", "struct", "trait", "type", "union",
  "unsafe", "use", "where", "while"]

/-- Calls. -/
def callLevel : Int := 15
/-- Access to fields. -/
def fieldLevel : Int := 14
/-- Prefix operators. -/
def unaryLevel : Int := 12
/-- Assignments. -/
def assignLevel : Int := 0

/-- The binary operators with their levels. -/
def binaryOperators : List (Int × List String) := [
  (3, ["&&"]), (2, ["||"]), (7, ["&"]), (5, ["|"]), (6, ["^"]),
  (4, ["==", "!=", "<", "<=", ">", ">="]), (8, ["<<", ">>"]), (9, ["+", "-"]), (10, ["*", "/", "%"])]

/-- Parts in parentheses, brackets or braces. -/
def delimited (r : Rule) : Rule := choice [
  seq ["(", r, ")"],
  seq ["[", r, "]"],
  seq [openBrace, r, closeBrace]]

/-- A left angle bracket that opens arguments. -/
def openAngle : Rule := .token (prec 1 "<")

/-! ### Statements and macros -/

/-- Files, statements and macro definitions. -/
def statements : List (String × Rule) := [
  ("source_file", seq [optional (ref "shebang"), many (ref "_statement")]),
  ("_statement", choice [ref "expression_statement", ref "_declaration_statement"]),
  ("empty_statement", .text ";"),
  ("expression_statement", choice [
    seq [ref "_expression", ";"],
    prec 1 (ref "_expression_ending_with_block")]),
  ("_declaration_statement", choice [
    ref "const_item",
    ref "macro_invocation",
    ref "macro_definition",
    ref "empty_statement",
    ref "attribute_item",
    ref "inner_attribute_item",
    ref "mod_item",
    ref "foreign_mod_item",
    ref "struct_item",
    ref "union_item",
    ref "enum_item",
    ref "type_item",
    ref "function_item",
    ref "function_signature_item",
    ref "impl_item",
    ref "trait_item",
    ref "associated_type",
    ref "let_declaration",
    ref "use_declaration",
    ref "extern_crate_declaration",
    ref "static_item"]),
  ("macro_definition",
    let rules := seq [many (seq [ref "macro_rule", ";"]), optional (ref "macro_rule")]
    seq [
      "macro_rules!",
      field "name" (choice [ref "identifier", ref "_reserved_identifier"]),
      choice [
        seq ["(", rules, ")", ";"],
        seq ["[", rules, "]", ";"],
        seq [openBrace, rules, closeBrace]]]),
  ("macro_rule", seq [
    field "left" (ref "token_tree_pattern"),
    "=>",
    field "right" (ref "token_tree")]),
  ("_token_pattern", choice [
    ref "token_tree_pattern",
    ref "token_repetition_pattern",
    ref "token_binding_pattern",
    ref "metavariable",
    ref "_non_special_token"]),
  ("token_tree_pattern", delimited (many (ref "_token_pattern"))),
  ("token_binding_pattern", prec 1 (seq [
    field "name" (ref "metavariable"),
    ":",
    field "type" (ref "fragment_specifier")])),
  ("token_repetition_pattern", seq [
    "$", "(", many (ref "_token_pattern"), ")", optional (shape r"[^+*?]+"), choice ["+", "*", "?"]]),
  ("fragment_specifier", choice [
    "block", "expr", "expr_2021", "ident", "item", "lifetime", "literal", "meta", "pat", "pat_param",
    "path", "stmt", "tt", "ty", "vis"]),
  ("_tokens", choice [
    ref "token_tree",
    ref "token_repetition",
    ref "metavariable",
    ref "_non_special_token"]),
  ("token_tree", delimited (many (ref "_tokens"))),
  ("token_repetition", seq [
    "$", "(", many (ref "_tokens"), ")", optional (shape r"[^+*?]+"), choice ["+", "*", "?"]]),
  ("_non_special_token", choice ([
    ref "_literal",
    ref "identifier",
    ref "mutable_specifier",
    ref "self",
    ref "super",
    ref "crate",
    shownAs "primitive_type" primitiveType,
    precRight 0 (many1 (choice (plainSigns.map Rule.text))),
    .text "'"] ++ plainWords.map Rule.text))]

/-! ### Declarations -/

/-- Modules, types, functions, implementations and imports. -/
def declarations : List (String × Rule) := [
  ("attribute_item", seq ["#", "[", ref "attribute", "]"]),
  ("inner_attribute_item", seq ["#", "!", "[", ref "attribute", "]"]),
  ("attribute", seq [
    ref "_path",
    optional (choice [
      seq ["=", field "value" (ref "_expression")],
      field "arguments" (shownAs "token_tree" (ref "delim_token_tree"))])]),
  ("mod_item", seq [
    optional (ref "visibility_modifier"),
    "mod",
    field "name" (ref "identifier"),
    choice [";", field "body" (ref "declaration_list")]]),
  ("foreign_mod_item", seq [
    optional (ref "visibility_modifier"),
    ref "extern_modifier",
    choice [";", field "body" (ref "declaration_list")]]),
  ("declaration_list", seq [openBrace, many (ref "_declaration_statement"), closeBrace]),
  ("struct_item", seq [
    optional (ref "visibility_modifier"),
    "struct",
    field "name" (ref "_type_identifier"),
    field "type_parameters" (optional (ref "type_parameters")),
    choice [
      seq [optional (ref "where_clause"), field "body" (ref "field_declaration_list")],
      seq [
        field "body" (ref "ordered_field_declaration_list"),
        optional (ref "where_clause"),
        ";"],
      ";"]]),
  ("union_item", seq [
    optional (ref "visibility_modifier"),
    "union",
    field "name" (ref "_type_identifier"),
    field "type_parameters" (optional (ref "type_parameters")),
    optional (ref "where_clause"),
    field "body" (ref "field_declaration_list")]),
  ("enum_item", seq [
    optional (ref "visibility_modifier"),
    "enum",
    field "name" (ref "_type_identifier"),
    field "type_parameters" (optional (ref "type_parameters")),
    optional (ref "where_clause"),
    field "body" (ref "enum_variant_list")]),
  ("enum_variant_list", seq [
    openBrace,
    commas (seq [many (ref "attribute_item"), ref "enum_variant"]),
    optional ",",
    closeBrace]),
  ("enum_variant", seq [
    optional (ref "visibility_modifier"),
    field "name" (ref "identifier"),
    field "body" (optional (choice [
      ref "field_declaration_list",
      ref "ordered_field_declaration_list"])),
    optional (seq ["=", field "value" (ref "_expression")])]),
  ("field_declaration_list", seq [
    openBrace,
    commas (seq [many (ref "attribute_item"), ref "field_declaration"]),
    optional ",",
    closeBrace]),
  ("field_declaration", seq [
    optional (ref "visibility_modifier"),
    field "name" (ref "_field_identifier"),
    ":",
    field "type" (ref "_type")]),
  ("ordered_field_declaration_list", seq [
    "(",
    commas (seq [
      many (ref "attribute_item"),
      optional (ref "visibility_modifier"),
      field "type" (ref "_type")]),
    optional ",",
    ")"]),
  ("extern_crate_declaration", seq [
    optional (ref "visibility_modifier"),
    "extern",
    ref "crate",
    field "name" (ref "identifier"),
    optional (seq ["as", field "alias" (ref "identifier")]),
    ";"]),
  ("const_item", seq [
    optional (ref "visibility_modifier"),
    "const",
    field "name" (ref "identifier"),
    ":",
    field "type" (ref "_type"),
    optional (seq ["=", field "value" (ref "_expression")]),
    ";"]),
  ("static_item", seq [
    optional (ref "visibility_modifier"),
    "static",
    optional "ref",
    optional (ref "mutable_specifier"),
    field "name" (ref "identifier"),
    ":",
    field "type" (ref "_type"),
    optional (seq ["=", field "value" (ref "_expression")]),
    ";"]),
  ("type_item", seq [
    optional (ref "visibility_modifier"),
    "type",
    field "name" (ref "_type_identifier"),
    field "type_parameters" (optional (ref "type_parameters")),
    optional (ref "where_clause"),
    "=",
    field "type" (ref "_type"),
    optional (ref "where_clause"),
    ";"]),
  ("function_item", seq [
    optional (ref "visibility_modifier"),
    optional (ref "function_modifiers"),
    "fn",
    field "name" (choice [ref "identifier", ref "metavariable"]),
    field "type_parameters" (optional (ref "type_parameters")),
    field "parameters" (ref "parameters"),
    optional (seq ["->", field "return_type" (ref "_type")]),
    optional (ref "where_clause"),
    field "body" (ref "block")]),
  ("function_signature_item", seq [
    optional (ref "visibility_modifier"),
    optional (ref "function_modifiers"),
    "fn",
    field "name" (choice [ref "identifier", ref "metavariable"]),
    field "type_parameters" (optional (ref "type_parameters")),
    field "parameters" (ref "parameters"),
    optional (seq ["->", field "return_type" (ref "_type")]),
    optional (ref "where_clause"),
    ";"]),
  ("function_modifiers", many1 (choice [
    "async", "default", "const", "unsafe", ref "extern_modifier"])),
  ("where_clause", precRight 0 (seq [
    "where",
    optional (seq [commas1 (ref "where_predicate"), optional ","])])),
  ("where_predicate", seq [
    field "left" (choice [
      ref "lifetime",
      ref "_type_identifier",
      ref "scoped_type_identifier",
      ref "generic_type",
      ref "reference_type",
      ref "pointer_type",
      ref "tuple_type",
      ref "array_type",
      ref "higher_ranked_trait_bound",
      shownAs "primitive_type" primitiveType]),
    field "bounds" (ref "trait_bounds")]),
  ("impl_item", seq [
    optional "unsafe",
    "impl",
    field "type_parameters" (optional (ref "type_parameters")),
    optional (seq [
      optional "!",
      field "trait" (choice [
        ref "_type_identifier",
        ref "scoped_type_identifier",
        ref "generic_type"]),
      "for"]),
    field "type" (ref "_type"),
    optional (ref "where_clause"),
    choice [field "body" (ref "declaration_list"), ";"]]),
  ("trait_item", seq [
    optional (ref "visibility_modifier"),
    optional "unsafe",
    "trait",
    field "name" (ref "_type_identifier"),
    field "type_parameters" (optional (ref "type_parameters")),
    field "bounds" (optional (ref "trait_bounds")),
    optional (ref "where_clause"),
    field "body" (ref "declaration_list")]),
  ("associated_type", seq [
    "type",
    field "name" (ref "_type_identifier"),
    field "type_parameters" (optional (ref "type_parameters")),
    field "bounds" (optional (ref "trait_bounds")),
    optional (ref "where_clause"),
    ";"]),
  ("trait_bounds", seq [
    ":",
    sepBy1 "+" (choice [ref "_type", ref "lifetime", ref "higher_ranked_trait_bound"])]),
  ("higher_ranked_trait_bound", seq [
    "for",
    field "type_parameters" (ref "type_parameters"),
    field "type" (ref "_type")]),
  ("removed_trait_bound", seq ["?", ref "_type"]),
  ("type_parameters", prec 1 (seq [
    "<",
    commas1 (seq [
      many (ref "attribute_item"),
      choice [
        ref "metavariable",
        ref "type_parameter",
        ref "lifetime_parameter",
        ref "const_parameter"]]),
    optional ",",
    ">"])),
  ("const_parameter", seq [
    "const",
    field "name" (ref "identifier"),
    ":",
    field "type" (ref "_type"),
    optional (seq [
      "=",
      field "value" (choice [
        ref "block",
        ref "identifier",
        ref "_literal",
        ref "negative_literal"])])]),
  ("type_parameter", prec 1 (seq [
    field "name" (ref "_type_identifier"),
    optional (field "bounds" (ref "trait_bounds")),
    optional (seq ["=", field "default_type" (ref "_type")])])),
  ("lifetime_parameter", prec 1 (seq [
    field "name" (ref "lifetime"),
    optional (field "bounds" (ref "trait_bounds"))])),
  ("let_declaration", seq [
    "let",
    optional (ref "mutable_specifier"),
    field "pattern" (ref "_pattern"),
    optional (seq [":", field "type" (ref "_type")]),
    optional (seq ["=", field "value" (ref "_expression")]),
    optional (seq ["else", field "alternative" (ref "block")]),
    ";"])]

/-- Imports, parameters and modifiers. -/
def headers : List (String × Rule) := [
  ("use_declaration", seq [
    optional (ref "visibility_modifier"),
    "use",
    field "argument" (ref "_use_clause"),
    ";"]),
  ("_use_clause", choice [
    ref "_path",
    ref "use_as_clause",
    ref "use_list",
    ref "scoped_use_list",
    ref "use_wildcard"]),
  ("scoped_use_list", seq [
    field "path" (optional (ref "_path")),
    "::",
    field "list" (ref "use_list")]),
  ("use_list", seq [openBrace, commas (ref "_use_clause"), optional ",", closeBrace]),
  ("use_as_clause", seq [field "path" (ref "_path"), "as", field "alias" (ref "identifier")]),
  ("use_wildcard", seq [optional (seq [optional (ref "_path"), "::"]), "*"]),
  ("parameters", seq [
    "(",
    commas (seq [
      optional (ref "attribute_item"),
      choice [
        ref "parameter",
        ref "self_parameter",
        ref "variadic_parameter",
        "_",
        ref "_type"]]),
    optional ",",
    ")"]),
  ("self_parameter", seq [
    optional "&",
    optional (ref "lifetime"),
    optional (ref "mutable_specifier"),
    ref "self"]),
  ("variadic_parameter", seq [
    optional (ref "mutable_specifier"),
    optional (seq [field "pattern" (ref "_pattern"), ":"]),
    "..."]),
  ("parameter", seq [
    optional (ref "mutable_specifier"),
    field "pattern" (choice [ref "_pattern", ref "self"]),
    ":",
    field "type" (ref "_type")]),
  ("extern_modifier", seq ["extern", optional (ref "string_literal")]),
  ("visibility_modifier", choice [
    ref "crate",
    seq [
      "pub",
      optional (seq [
        "(",
        choice [
          ref "self",
          ref "super",
          ref "crate",
          seq ["in", ref "_path"]],
        ")"])]])]

/-! ### Types -/

/-- Types. -/
def types : List (String × Rule) := [
  ("_type", choice [
    ref "abstract_type",
    ref "reference_type",
    ref "metavariable",
    ref "pointer_type",
    ref "generic_type",
    ref "scoped_type_identifier",
    ref "tuple_type",
    ref "unit_type",
    ref "array_type",
    ref "function_type",
    ref "_type_identifier",
    ref "macro_invocation",
    ref "never_type",
    ref "dynamic_type",
    ref "bounded_type",
    ref "removed_trait_bound",
    shownAs "primitive_type" primitiveType]),
  ("bracketed_type", seq ["<", choice [ref "_type", ref "qualified_type"], ">"]),
  ("qualified_type", seq [field "type" (ref "_type"), "as", field "alias" (ref "_type")]),
  ("lifetime", prec 1 (seq ["'", ref "identifier"])),
  ("array_type", seq [
    "[",
    field "element" (ref "_type"),
    optional (seq [";", field "length" (ref "_expression")]),
    "]"]),
  ("for_lifetimes", seq ["for", "<", commas1 (ref "lifetime"), optional ",", ">"]),
  ("function_type", seq [
    optional (ref "for_lifetimes"),
    prec callLevel (seq [
      choice [
        field "trait" (choice [ref "_type_identifier", ref "scoped_type_identifier"]),
        seq [optional (ref "function_modifiers"), "fn"]],
      field "parameters" (ref "parameters")]),
    optional (seq ["->", field "return_type" (ref "_type")])]),
  ("tuple_type", seq ["(", commas1 (ref "_type"), optional ",", ")"]),
  ("unit_type", seq ["(", ")"]),
  ("generic_function", prec 1 (seq [
    field "function" (choice [ref "identifier", ref "scoped_identifier", ref "field_expression"]),
    "::",
    field "type_arguments" (ref "type_arguments")])),
  ("generic_type", prec 1 (seq [
    field "type" (choice [
      ref "_type_identifier",
      ref "_reserved_identifier",
      ref "scoped_type_identifier"]),
    field "type_arguments" (ref "type_arguments")])),
  ("generic_type_with_turbofish", seq [
    field "type" (choice [ref "_type_identifier", ref "scoped_identifier"]),
    "::",
    field "type_arguments" (ref "type_arguments")]),
  ("bounded_type", precLeft (-1) (seq [
    choice [ref "lifetime", ref "_type", ref "use_bounds"],
    "+",
    choice [ref "lifetime", ref "_type", ref "use_bounds"]])),
  ("use_bounds", seq [
    "use",
    openAngle,
    commas (choice [ref "lifetime", ref "_type_identifier"]),
    optional ",",
    ">"]),
  ("type_arguments", seq [
    openAngle,
    commas1 (seq [
      choice [
        ref "_type",
        ref "type_binding",
        ref "lifetime",
        ref "_literal",
        ref "block"],
      optional (ref "trait_bounds")]),
    optional ",",
    ">"]),
  ("type_binding", seq [
    field "name" (ref "_type_identifier"),
    field "type_arguments" (optional (ref "type_arguments")),
    "=",
    field "type" (ref "_type")]),
  ("reference_type", seq [
    "&",
    optional (ref "lifetime"),
    optional (ref "mutable_specifier"),
    field "type" (ref "_type")]),
  ("pointer_type", seq [
    "*",
    choice ["const", ref "mutable_specifier"],
    field "type" (ref "_type")]),
  ("never_type", .text "!"),
  ("abstract_type", seq [
    "impl",
    optional (seq ["for", ref "type_parameters"]),
    field "trait" (prec 1 (choice [
      ref "_type_identifier",
      ref "scoped_type_identifier",
      ref "removed_trait_bound",
      ref "generic_type",
      ref "function_type",
      ref "tuple_type",
      ref "bounded_type"]))]),
  ("dynamic_type", seq [
    "dyn",
    field "trait" (prec 1 (choice [
      ref "higher_ranked_trait_bound",
      ref "_type_identifier",
      ref "scoped_type_identifier",
      ref "generic_type",
      ref "function_type",
      ref "tuple_type"]))]),
  ("mutable_specifier", .text "mut")]

/-! ### Expressions -/

/-- Expressions without blocks of their own. -/
def expressions : List (String × Rule) := [
  ("_expression_except_range", choice [
    ref "unary_expression",
    ref "reference_expression",
    ref "try_expression",
    ref "binary_expression",
    ref "assignment_expression",
    ref "compound_assignment_expr",
    ref "type_cast_expression",
    ref "call_expression",
    ref "return_expression",
    ref "yield_expression",
    ref "_literal",
    precLeft 0 (ref "identifier"),
    shownAs "identifier" primitiveType,
    precLeft 0 (ref "_reserved_identifier"),
    ref "self",
    ref "scoped_identifier",
    ref "generic_function",
    ref "await_expression",
    ref "field_expression",
    ref "array_expression",
    ref "tuple_expression",
    prec 1 (ref "macro_invocation"),
    ref "unit_expression",
    ref "break_expression",
    ref "continue_expression",
    ref "index_expression",
    ref "metavariable",
    ref "closure_expression",
    ref "parenthesized_expression",
    ref "struct_expression",
    ref "_expression_ending_with_block"]),
  ("_expression", choice [ref "_expression_except_range", ref "range_expression"]),
  ("_expression_ending_with_block", choice [
    ref "unsafe_block",
    ref "async_block",
    ref "gen_block",
    ref "try_block",
    ref "block",
    ref "if_expression",
    ref "match_expression",
    ref "while_expression",
    ref "loop_expression",
    ref "for_expression",
    ref "const_block"]),
  ("macro_invocation", seq [
    field "macro" (choice [
      ref "scoped_identifier",
      ref "identifier",
      ref "_reserved_identifier"]),
    "!",
    shownAs "token_tree" (ref "delim_token_tree")]),
  ("delim_token_tree", delimited (many (ref "_delim_tokens"))),
  ("_delim_tokens", choice [
    ref "_non_delim_token",
    shownAs "token_tree" (ref "delim_token_tree")]),
  ("_non_delim_token", choice [ref "_non_special_token", "$"]),
  ("scoped_identifier", seq [
    field "path" (optional (choice [
      ref "_path",
      ref "bracketed_type",
      shownAs "generic_type" (ref "generic_type_with_turbofish")])),
    "::",
    field "name" (choice [ref "identifier", ref "super"])]),
  ("scoped_type_identifier_in_expression_position", prec (-2) (seq [
    field "path" (optional (choice [
      ref "_path",
      shownAs "generic_type" (ref "generic_type_with_turbofish")])),
    "::",
    field "name" (ref "_type_identifier")])),
  ("scoped_type_identifier", seq [
    field "path" (optional (choice [
      ref "_path",
      shownAs "generic_type" (ref "generic_type_with_turbofish"),
      ref "bracketed_type",
      ref "generic_type"])),
    "::",
    field "name" (ref "_type_identifier")]),
  ("range_expression", precLeft 1 (choice [
    seq [ref "_expression", choice ["..", "...", "..="], ref "_expression"],
    seq [ref "_expression", ".."],
    seq [choice ["..", "..="], ref "_expression"],
    ".."])),
  ("unary_expression", prec unaryLevel (seq [choice ["-", "*", "!"], ref "_expression"])),
  ("try_expression", prec 13 (seq [ref "_expression", "?"])),
  ("reference_expression", prec unaryLevel (seq [
    "&",
    choice [
      seq ["raw", choice ["const", ref "mutable_specifier"]],
      optional (ref "mutable_specifier")],
    field "value" (ref "_expression")])),
  ("binary_expression", choice (binaryOperators.map fun (level, signs) =>
    precLeft level (seq [
      field "left" (ref "_expression"),
      field "operator" (choice (signs.map Rule.text)),
      field "right" (ref "_expression")]))),
  ("assignment_expression", precLeft assignLevel (seq [
    field "left" (ref "_expression"),
    "=",
    field "right" (ref "_expression")])),
  ("compound_assignment_expr", precLeft assignLevel (seq [
    field "left" (ref "_expression"),
    field "operator" (choice ["+=", "-=", "*=", "/=", "%=", "&=", "|=", "^=", "<<=", ">>="]),
    field "right" (ref "_expression")])),
  ("type_cast_expression", precLeft 11 (seq [
    field "value" (ref "_expression"),
    "as",
    field "type" (ref "_type")])),
  ("return_expression", choice [
    precLeft 0 (seq ["return", ref "_expression"]),
    prec (-1) "return"]),
  ("yield_expression", choice [
    precLeft 0 (seq ["yield", ref "_expression"]),
    prec (-1) "yield"]),
  ("call_expression", prec callLevel (seq [
    field "function" (ref "_expression_except_range"),
    field "arguments" (ref "arguments")])),
  ("arguments", seq [
    "(",
    commas (seq [many (ref "attribute_item"), ref "_expression"]),
    optional ",",
    ")"]),
  ("array_expression", seq [
    "[",
    many (ref "attribute_item"),
    choice [
      seq [ref "_expression", ";", field "length" (ref "_expression")],
      seq [
        commas (seq [many (ref "attribute_item"), ref "_expression"]),
        optional ","]],
    "]"]),
  ("parenthesized_expression", seq ["(", ref "_expression", ")"]),
  ("tuple_expression", seq [
    "(",
    many (ref "attribute_item"),
    seq [ref "_expression", ","],
    many (seq [ref "_expression", ","]),
    optional (ref "_expression"),
    ")"]),
  ("unit_expression", seq ["(", ")"]),
  ("struct_expression", seq [
    field "name" (choice [
      ref "_type_identifier",
      shownAs "scoped_type_identifier" (ref "scoped_type_identifier_in_expression_position"),
      ref "generic_type_with_turbofish"]),
    field "body" (ref "field_initializer_list")]),
  ("field_initializer_list", seq [
    openBrace,
    commas (choice [
      ref "shorthand_field_initializer",
      ref "field_initializer",
      ref "base_field_initializer"]),
    optional ",",
    closeBrace]),
  ("shorthand_field_initializer", seq [many (ref "attribute_item"), ref "identifier"]),
  ("field_initializer", seq [
    many (ref "attribute_item"),
    field "field" (choice [ref "_field_identifier", ref "integer_literal"]),
    ":",
    field "value" (ref "_expression")]),
  ("base_field_initializer", seq ["..", ref "_expression"])]

/-- Expressions with blocks. -/
def blocks : List (String × Rule) := [
  ("if_expression", precRight 0 (seq [
    "if",
    field "condition" (ref "_condition"),
    field "consequence" (ref "block"),
    optional (field "alternative" (ref "else_clause"))])),
  ("let_condition", seq [
    "let",
    field "pattern" (ref "_pattern"),
    "=",
    field "value" (precLeft 3 (ref "_expression"))]),
  ("_let_chain", precLeft 3 (choice [
    seq [ref "_let_chain", "&&", ref "let_condition"],
    seq [ref "_let_chain", "&&", ref "_expression"],
    seq [ref "let_condition", "&&", ref "_expression"],
    seq [ref "let_condition", "&&", ref "let_condition"],
    seq [ref "_expression", "&&", ref "let_condition"]])),
  ("_condition", choice [
    ref "_expression",
    ref "let_condition",
    shownAs "let_chain" (ref "_let_chain")]),
  ("else_clause", seq ["else", choice [ref "block", ref "if_expression"]]),
  ("match_expression", seq [
    "match",
    field "value" (ref "_expression"),
    field "body" (ref "match_block")]),
  ("match_block", seq [
    openBrace,
    optional (seq [
      many (ref "match_arm"),
      shownAs "match_arm" (ref "last_match_arm")]),
    closeBrace]),
  ("match_arm", precRight 0 (seq [
    many (choice [ref "attribute_item", ref "inner_attribute_item"]),
    field "pattern" (ref "match_pattern"),
    "=>",
    choice [
      seq [field "value" (ref "_expression"), ","],
      field "value" (prec 1 (ref "_expression_ending_with_block"))]])),
  ("last_match_arm", seq [
    many (choice [ref "attribute_item", ref "inner_attribute_item"]),
    field "pattern" (ref "match_pattern"),
    "=>",
    field "value" (ref "_expression"),
    optional ","]),
  ("match_pattern", seq [
    ref "_pattern",
    optional (seq ["if", field "condition" (ref "_condition")])]),
  ("while_expression", seq [
    optional (seq [ref "label", ":"]),
    "while",
    field "condition" (ref "_condition"),
    field "body" (ref "block")]),
  ("loop_expression", seq [
    optional (seq [ref "label", ":"]),
    "loop",
    field "body" (ref "block")]),
  ("for_expression", seq [
    optional (seq [ref "label", ":"]),
    "for",
    field "pattern" (ref "_pattern"),
    "in",
    field "value" (ref "_expression"),
    field "body" (ref "block")]),
  ("const_block", seq ["const", field "body" (ref "block")]),
  ("closure_expression", prec (-1) (seq [
    optional "static",
    optional "async",
    optional "move",
    field "parameters" (ref "closure_parameters"),
    choice [
      seq [
        optional (seq ["->", field "return_type" (ref "_type")]),
        field "body" (ref "block")],
      field "body" (choice [ref "_expression", "_"])]])),
  ("closure_parameters", seq [
    "|",
    commas (choice [ref "_pattern", ref "parameter"]),
    "|"]),
  ("label", seq ["'", ref "identifier"]),
  ("break_expression", precLeft 0 (seq [
    "break", optional (ref "label"), optional (ref "_expression")])),
  ("continue_expression", precLeft 0 (seq ["continue", optional (ref "label")])),
  ("index_expression", prec callLevel (seq [ref "_expression", "[", ref "_expression", "]"])),
  ("await_expression", prec fieldLevel (seq [ref "_expression", ".", "await"])),
  ("field_expression", prec fieldLevel (seq [
    field "value" (ref "_expression"),
    ".",
    field "field" (choice [ref "_field_identifier", ref "integer_literal"])])),
  ("unsafe_block", seq ["unsafe", ref "block"]),
  ("async_block", seq ["async", optional "move", ref "block"]),
  ("gen_block", seq ["gen", optional "move", ref "block"]),
  ("try_block", seq ["try", ref "block"]),
  ("block", seq [
    optional (seq [ref "label", ":"]),
    openBrace,
    many (ref "_statement"),
    optional (ref "_expression"),
    closeBrace])]

/-! ### Patterns, literals and names -/

/-- Patterns. -/
def patterns : List (String × Rule) := [
  ("_pattern", choice [
    ref "_literal_pattern",
    shownAs "identifier" primitiveType,
    ref "identifier",
    ref "scoped_identifier",
    ref "generic_pattern",
    ref "tuple_pattern",
    ref "tuple_struct_pattern",
    ref "struct_pattern",
    ref "_reserved_identifier",
    ref "ref_pattern",
    ref "slice_pattern",
    ref "captured_pattern",
    ref "reference_pattern",
    ref "remaining_field_pattern",
    ref "mut_pattern",
    ref "range_pattern",
    ref "or_pattern",
    ref "const_block",
    ref "macro_invocation",
    "_"]),
  ("generic_pattern", seq [
    choice [ref "identifier", ref "scoped_identifier"],
    "::",
    field "type_arguments" (ref "type_arguments")]),
  ("tuple_pattern", seq [
    "(",
    commas (choice [ref "_pattern", ref "closure_expression"]),
    optional ",",
    ")"]),
  ("slice_pattern", seq ["[", commas (ref "_pattern"), optional ",", "]"]),
  ("tuple_struct_pattern", seq [
    field "type" (choice [
      ref "identifier",
      ref "scoped_identifier",
      shownAs "generic_type" (ref "generic_type_with_turbofish")]),
    "(",
    commas (ref "_pattern"),
    optional ",",
    ")"]),
  ("struct_pattern", seq [
    field "type" (choice [ref "_type_identifier", ref "scoped_type_identifier"]),
    openBrace,
    commas (choice [ref "field_pattern", ref "remaining_field_pattern"]),
    optional ",",
    closeBrace]),
  ("field_pattern", seq [
    optional "ref",
    optional (ref "mutable_specifier"),
    choice [
      field "name" (shownAs "shorthand_field_identifier" (ref "identifier")),
      seq [
        field "name" (ref "_field_identifier"),
        ":",
        field "pattern" (ref "_pattern")]]]),
  ("remaining_field_pattern", .text ".."),
  ("mut_pattern", prec (-1) (seq [ref "mutable_specifier", ref "_pattern"])),
  ("range_pattern", choice [
    seq [
      field "left" (choice [ref "_literal_pattern", ref "_path"]),
      choice [
        seq [
          choice ["...", "..=", ".."],
          field "right" (choice [ref "_literal_pattern", ref "_path"])],
        ".."]],
    seq [
      choice ["..=", ".."],
      field "right" (choice [ref "_literal_pattern", ref "_path"])]]),
  ("ref_pattern", seq ["ref", ref "_pattern"]),
  ("captured_pattern", seq [ref "identifier", "@", ref "_pattern"]),
  ("reference_pattern", seq ["&", optional (ref "mutable_specifier"), ref "_pattern"]),
  ("or_pattern", precLeft (-2) (choice [
    seq [ref "_pattern", "|", ref "_pattern"],
    seq ["|", ref "_pattern"]]))]

/-- Literals and names. -/
def literals : List (String × Rule) := [
  ("_literal", choice [
    ref "string_literal",
    ref "raw_string_literal",
    ref "char_literal",
    ref "boolean_literal",
    ref "integer_literal",
    ref "float_literal"]),
  ("_literal_pattern", choice [
    ref "string_literal",
    ref "raw_string_literal",
    ref "char_literal",
    ref "boolean_literal",
    ref "integer_literal",
    ref "float_literal",
    ref "negative_literal"]),
  ("negative_literal", seq ["-", choice [ref "integer_literal", ref "float_literal"]]),
  ("integer_literal", .token (seq [
    choice [
      shape r"[0-9][0-9_]*",
      shape r"0x[0-9a-fA-F_]+",
      shape r"0b[01_]+",
      shape r"0o[0-7_]+"],
    optional (choice (numericTypes.map Rule.text))])),
  ("string_literal", seq [
    shownAsSign "\x22" (shape r"[bc]?\x22"),
    many (choice [ref "escape_sequence", ref "string_content"]),
    .immediate "\x22"]),
  ("raw_string_literal", seq [
    ref "_raw_string_literal_start",
    shownAs "string_content" (ref "raw_string_literal_content"),
    ref "_raw_string_literal_end"]),
  ("char_literal", .token (seq [
    optional "b",
    "'",
    optional (choice [
      seq ["\\", choice [
        shape r"[^xu]",
        shape r"u[0-9a-fA-F]{4}",
        shape r"u\x7b[0-9a-fA-F]+\x7d",
        shape r"x[0-9a-fA-F]{2}"]],
      shape r"[^\\']"]),
    "'"])),
  ("escape_sequence", .immediate (seq [
    "\\",
    choice [
      shape r"[^xu]",
      shape r"u[0-9a-fA-F]{4}",
      shape r"u\x7b[0-9a-fA-F]+\x7d",
      shape r"x[0-9a-fA-F]{2}"]])),
  ("boolean_literal", choice ["true", "false"]),
  ("_path", choice [
    ref "self",
    shownAs "identifier" primitiveType,
    ref "metavariable",
    ref "super",
    ref "crate",
    ref "identifier",
    ref "scoped_identifier",
    ref "_reserved_identifier"]),
  ("identifier", shape r"(r#)?[_\p{XID_Start}][_\p{XID_Continue}]*"),
  ("shebang", shape r"#![\r\f\t\v ]*([^\[\n].*)?\n"),
  ("_reserved_identifier", shownAs "identifier" (choice ["default", "union", "gen", "raw"])),
  ("_type_identifier", shownAs "type_identifier" (ref "identifier")),
  ("_field_identifier", shownAs "field_identifier" (ref "identifier")),
  ("self", .text "self"),
  ("super", .text "super"),
  ("crate", .text "crate"),
  ("metavariable", shape r"\$[a-zA-Z_]\w*")]

/-- The grammar of Rust. -/
def grammar : Spec where
  rules := statements ++ declarations ++ headers ++ types ++ expressions ++ blocks ++ patterns ++ literals
  extras := [shape r"\s", ref "line_comment", ref "block_comment"]
  externals := [
    ref "string_content", ref "_raw_string_literal_start", ref "raw_string_literal_content",
    ref "_raw_string_literal_end", ref "float_literal", ref "line_comment", ref "block_comment"]
  inlined := [
    "_path", "_type_identifier", "_tokens", "_field_identifier", "_non_special_token",
    "_declaration_statement", "_reserved_identifier", "_expression_ending_with_block"]
  categories := [
    "_expression", "_type", "_literal", "_literal_pattern", "_declaration_statement", "_pattern"]
  word := some "identifier"
  rankings := []

end CodeAtlas.Language.Rust
