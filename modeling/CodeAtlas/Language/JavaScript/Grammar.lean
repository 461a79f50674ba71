import CodeAtlas.Grammar.Rule

/-!
The grammar of JavaScript, with JSX elements and decorators.
-/
namespace CodeAtlas.Language.JavaScript

open CodeAtlas.Grammar

/-! ### Names -/

/-- A character that may begin a name, or its escape. -/
def letter : Rule := shape
  r"[^\x00-\x1F\s\p{Zs}0-9:;\x60\x22'@#.,|\^&<=>+\-*/\\%?!~()\[\]\x7b\x7d\uFEFF\u2060\u200B\u2028\u2029]|\\u[0-9a-fA-F]{4}|\\u\x7b[0-9a-fA-F]+\x7d"

/-- A character that may stand inside a name, or its escape. -/
def letterOrDigit : Rule := shape
  r"[^\x00-\x1F\s\p{Zs}:;\x60\x22'@#.,|\^&<=>+\-*/\\%?!~()\[\]\x7b\x7d\uFEFF\u2060\u200B\u2028\u2029]|\\u[0-9a-fA-F]{4}|\\u\x7b[0-9a-fA-F]+\x7d"

/-- The words `static get` at the end of a line. -/
def staticGet : Rule :=
  shownAsSign "static get" (.token (seq ["static", shape r"\s+", "get", shape r"\s*\n"]))

/-! ### Operators -/

/-- The binary operators with their ranks; the one that groups to the right is marked. -/
def binaryOperators : List (String × String × Bool) := [
  ("&&", "logical_and", false), ("||", "logical_or", false),
  (">>", "binary_shift", false), (">>>", "binary_shift", false), ("<<", "binary_shift", false),
  ("&", "bitwise_and", false), ("^", "bitwise_xor", false), ("|", "bitwise_or", false),
  ("+", "binary_plus", false), ("-", "binary_plus", false),
  ("*", "binary_times", false), ("/", "binary_times", false), ("%", "binary_times", false),
  ("**", "binary_exp", true),
  ("<", "binary_relation", false), ("<=", "binary_relation", false),
  ("==", "binary_equality", false), ("===", "binary_equality", false),
  ("!=", "binary_equality", false), ("!==", "binary_equality", false),
  (">=", "binary_relation", false), (">", "binary_relation", false),
  ("??", "ternary", false),
  ("instanceof", "binary_relation", false), ("in", "binary_relation", false)]

/-- The rankings of the operators and of rules that begin alike. -/
def rankings : List (List RankEntry) := [
  [.rank "member", .rank "template_call", .rank "call", .symbol "update_expression", .rank "unary_void",
    .rank "binary_exp", .rank "binary_times", .rank "binary_plus", .rank "binary_shift",
    .rank "binary_compare", .rank "binary_relation", .rank "binary_equality", .rank "bitwise_and",
    .rank "bitwise_xor", .rank "bitwise_or", .rank "logical_and", .rank "logical_or", .rank "ternary",
    .symbol "sequence_expression", .symbol "arrow_function"],
  [.rank "assign", .symbol "primary_expression"],
  [.rank "member", .rank "template_call", .rank "new", .rank "call", .symbol "expression"],
  [.rank "declare", .rank "literal"],
  [.symbol "primary_expression", .symbol "statement_block", .rank "object"],
  [.symbol "meta_property", .symbol "import"],
  [.symbol "import_statement", .symbol "import"],
  [.symbol "export_statement", .symbol "primary_expression"],
  [.symbol "lexical_declaration", .symbol "primary_expression"]]

/-! ### Modules and statements -/

/-- Programs, exports, imports and declarations. -/
def modules : List (String × Rule) := [
  ("program", seq [optional (ref "hash_bang_line"), many (ref "statement")]),
  ("hash_bang_line", shape r"#!.*"),
  ("export_statement", choice [
    seq [
      "export",
      choice [
        seq ["*", ref "_from_clause"],
        seq [ref "namespace_export", ref "_from_clause"],
        seq [ref "export_clause", ref "_from_clause"],
        ref "export_clause"],
      ref "_semicolon"],
    seq [
      many (field "decorator" (ref "decorator")),
      "export",
      choice [
        field "declaration" (ref "declaration"),
        seq [
          "default",
          choice [
            field "declaration" (ref "declaration"),
            seq [field "value" (ref "expression"), ref "_semicolon"]]]]]]),
  ("namespace_export", seq ["*", "as", ref "_module_export_name"]),
  ("export_clause", seq [openBrace, commas (ref "export_specifier"), optional ",", closeBrace]),
  ("export_specifier", seq [
    field "name" (ref "_module_export_name"),
    optional (seq ["as", field "alias" (ref "_module_export_name")])]),
  ("_module_export_name", choice [ref "identifier", ref "string", "default"]),
  ("declaration", choice [
    ref "function_declaration",
    ref "generator_function_declaration",
    ref "class_declaration",
    ref "lexical_declaration",
    ref "variable_declaration"]),
  ("import", .token "import"),
  ("import_statement", seq [
    "import",
    choice [
      seq [ref "import_clause", ref "_from_clause"],
      field "source" (ref "string")],
    optional (ref "import_attribute"),
    ref "_semicolon"]),
  ("import_clause", choice [
    ref "namespace_import",
    ref "named_imports",
    seq [
      ref "identifier",
      optional (seq [",", choice [ref "namespace_import", ref "named_imports"]])]]),
  ("_from_clause", seq ["from", field "source" (ref "string")]),
  ("namespace_import", seq ["*", "as", ref "identifier"]),
  ("named_imports", seq [openBrace, commas (ref "import_specifier"), optional ",", closeBrace]),
  ("import_specifier", choice [
    field "name" (ref "identifier"),
    seq [
      field "name" (ref "_module_export_name"),
      "as",
      field "alias" (ref "identifier")]]),
  ("import_attribute", seq ["with", ref "object"]),
  ("statement", choice [
    ref "export_statement",
    ref "import_statement",
    ref "debugger_statement",
    ref "expression_statement",
    ref "declaration",
    ref "statement_block",
    ref "if_statement",
    ref "switch_statement",
    ref "for_statement",
    ref "for_in_statement",
    ref "while_statement",
    ref "do_statement",
    ref "try_statement",
    ref "with_statement",
    ref "break_statement",
    ref "continue_statement",
    ref "return_statement",
    ref "throw_statement",
    ref "empty_statement",
    ref "labeled_statement"]),
  ("expression_statement", seq [ref "_expressions", ref "_semicolon"]),
  ("variable_declaration", seq ["var", commas1 (ref "variable_declarator"), ref "_semicolon"]),
  ("lexical_declaration", seq [
    field "kind" (choice ["let", "const"]),
    commas1 (ref "variable_declarator"),
    ref "_semicolon"]),
  ("variable_declarator", seq [
    field "name" (choice [ref "identifier", ref "_destructuring_pattern"]),
    optional (ref "_initializer")])]

/-- Statements with bodies, and jumps. -/
def statements : List (String × Rule) := [
  ("statement_block", precRight 0 (seq [
    openBrace,
    many (ref "statement"),
    closeBrace,
    optional (ref "_automatic_semicolon")])),
  ("else_clause", seq ["else", ref "statement"]),
  ("if_statement", precRight 0 (seq [
    "if",
    field "condition" (ref "parenthesized_expression"),
    field "consequence" (ref "statement"),
    optional (field "alternative" (ref "else_clause"))])),
  ("switch_statement", seq [
    "switch",
    field "value" (ref "parenthesized_expression"),
    field "body" (ref "switch_body")]),
  ("for_statement", seq [
    "for",
    "(",
    choice [
      field "initializer" (choice [ref "lexical_declaration", ref "variable_declaration"]),
      seq [field "initializer" (ref "_expressions"), ";"],
      field "initializer" (ref "empty_statement")],
    field "condition" (choice [seq [ref "_expressions", ";"], ref "empty_statement"]),
    field "increment" (optional (ref "_expressions")),
    ")",
    field "body" (ref "statement")]),
  ("for_in_statement", seq [
    "for",
    optional "await",
    ref "_for_header",
    field "body" (ref "statement")]),
  ("_for_header", seq [
    "(",
    choice [
      field "left" (choice [ref "_lhs_expression", ref "parenthesized_expression"]),
      seq [
        field "kind" "var",
        field "left" (choice [ref "identifier", ref "_destructuring_pattern"]),
        optional (ref "_initializer")],
      seq [
        field "kind" (choice ["let", "const"]),
        field "left" (choice [ref "identifier", ref "_destructuring_pattern"]),
        optional (ref "_automatic_semicolon")]],
    field "operator" (choice ["in", "of"]),
    field "right" (ref "_expressions"),
    ")"]),
  ("while_statement", seq [
    "while",
    field "condition" (ref "parenthesized_expression"),
    field "body" (ref "statement")]),
  ("do_statement", precRight 0 (seq [
    "do",
    field "body" (ref "statement"),
    "while",
    field "condition" (ref "parenthesized_expression"),
    optional (ref "_semicolon")])),
  ("try_statement", seq [
    "try",
    field "body" (ref "statement_block"),
    optional (field "handler" (ref "catch_clause")),
    optional (field "finalizer" (ref "finally_clause"))]),
  ("with_statement", seq [
    "with",
    field "object" (ref "parenthesized_expression"),
    field "body" (ref "statement")]),
  ("break_statement", seq [
    "break",
    field "label" (optional (shownAs "statement_identifier" (ref "identifier"))),
    ref "_semicolon"]),
  ("continue_statement", seq [
    "continue",
    field "label" (optional (shownAs "statement_identifier" (ref "identifier"))),
    ref "_semicolon"]),
  ("debugger_statement", seq ["debugger", ref "_semicolon"]),
  ("return_statement", seq ["return", optional (ref "_expressions"), ref "_semicolon"]),
  ("throw_statement", seq ["throw", ref "_expressions", ref "_semicolon"]),
  ("empty_statement", ";"),
  ("labeled_statement", .weight (-1) (seq [
    field "label" (shownAs "statement_identifier"
      (choice [ref "identifier", ref "_reserved_identifier"])),
    ":",
    field "body" (ref "statement")])),
  ("switch_body", seq [
    openBrace,
    many (choice [ref "switch_case", ref "switch_default"]),
    closeBrace]),
  ("switch_case", seq [
    "case",
    field "value" (ref "_expressions"),
    ":",
    field "body" (many (ref "statement"))]),
  ("switch_default", seq ["default", ":", field "body" (many (ref "statement"))]),
  ("catch_clause", seq [
    "catch",
    optional (seq [
      "(",
      field "parameter" (choice [ref "identifier", ref "_destructuring_pattern"]),
      ")"]),
    field "body" (ref "statement_block")]),
  ("finally_clause", seq ["finally", field "body" (ref "statement_block")]),
  ("parenthesized_expression", seq ["(", ref "_expressions", ")"])]

/-! ### Expressions -/

/-- Kinds of expressions, objects, arrays and patterns. -/
def expressions : List (String × Rule) := [
  ("_expressions", choice [ref "expression", ref "sequence_expression"]),
  ("expression", choice [
    ref "primary_expression",
    ref "_jsx_element",
    ref "assignment_expression",
    ref "augmented_assignment_expression",
    ref "await_expression",
    ref "unary_expression",
    ref "binary_expression",
    ref "ternary_expression",
    ref "update_expression",
    ref "new_expression",
    ref "yield_expression"]),
  ("primary_expression", choice [
    ref "subscript_expression",
    ref "member_expression",
    ref "parenthesized_expression",
    ref "_identifier",
    shownAs "identifier" (ref "_reserved_identifier"),
    ref "this",
    ref "super",
    ref "number",
    ref "string",
    ref "template_string",
    ref "regex",
    ref "true",
    ref "false",
    ref "null",
    ref "object",
    ref "array",
    ref "function_expression",
    ref "arrow_function",
    ref "generator_function",
    ref "class",
    ref "meta_property",
    ref "call_expression"]),
  ("yield_expression", precRight 0 (seq [
    "yield",
    choice [seq ["*", ref "expression"], optional (ref "expression")]])),
  ("object", ranked "object" (seq [
    openBrace,
    commas (optional (choice [
      ref "pair",
      ref "spread_element",
      ref "method_definition",
      shownAs "shorthand_property_identifier"
        (choice [ref "identifier", ref "_reserved_identifier"])])),
    closeBrace])),
  ("object_pattern", ranked "object" (seq [
    openBrace,
    commas (optional (choice [
      ref "pair_pattern",
      ref "rest_pattern",
      ref "object_assignment_pattern",
      shownAs "shorthand_property_identifier_pattern"
        (choice [ref "identifier", ref "_reserved_identifier"])])),
    closeBrace])),
  ("assignment_pattern", seq [
    field "left" (ref "pattern"),
    "=",
    field "right" (ref "expression")]),
  ("object_assignment_pattern", seq [
    field "left" (choice [
      shownAs "shorthand_property_identifier_pattern"
        (choice [ref "_reserved_identifier", ref "identifier"]),
      ref "_destructuring_pattern"]),
    "=",
    field "right" (ref "expression")]),
  ("array", seq [
    "[",
    commas (optional (choice [ref "expression", ref "spread_element"])),
    "]"]),
  ("array_pattern", seq [
    "[",
    commas (optional (choice [ref "pattern", ref "assignment_pattern"])),
    "]"])]

/-- Elements of markup inside expressions. -/
def markup : List (String × Rule) := [
  ("_jsx_element", choice [ref "jsx_element", ref "jsx_self_closing_element"]),
  ("jsx_element", seq [
    field "open_tag" (ref "jsx_opening_element"),
    many (ref "_jsx_child"),
    field "close_tag" (ref "jsx_closing_element")]),
  ("html_character_reference",
    shape r"&(#([xX][0-9a-fA-F]{1,6}|[0-9]{1,5})|[A-Za-z]{1,30});"),
  ("jsx_expression", seq [
    openBrace,
    optional (choice [ref "expression", ref "sequence_expression", ref "spread_element"]),
    closeBrace]),
  ("_jsx_child", choice [
    ref "jsx_text",
    ref "html_character_reference",
    ref "_jsx_element",
    ref "jsx_expression"]),
  ("jsx_opening_element", .weight (-1) (seq [
    "<",
    optional (seq [
      field "name" (ref "_jsx_element_name"),
      many (field "attribute" (ref "_jsx_attribute"))]),
    ">"])),
  ("jsx_identifier", shape r"[a-zA-Z_$][a-zA-Z\d_$]*-[a-zA-Z\d_$\-]*"),
  ("_jsx_identifier", choice [shownAs "identifier" (ref "jsx_identifier"), ref "identifier"]),
  ("nested_identifier", ranked "member" (seq [
    field "object" (choice [
      ref "identifier",
      shownAs "member_expression" (ref "nested_identifier")]),
    ".",
    field "property" (shownAs "property_identifier" (ref "identifier"))])),
  ("jsx_namespace_name", seq [ref "_jsx_identifier", ":", ref "_jsx_identifier"]),
  ("_jsx_element_name", choice [
    ref "_jsx_identifier",
    shownAs "member_expression" (ref "nested_identifier"),
    ref "jsx_namespace_name"]),
  ("jsx_closing_element", seq [
    "</",
    optional (field "name" (ref "_jsx_element_name")),
    ">"]),
  ("jsx_self_closing_element", seq [
    "<",
    field "name" (ref "_jsx_element_name"),
    many (field "attribute" (ref "_jsx_attribute")),
    "/>"]),
  ("_jsx_attribute", choice [ref "jsx_attribute", ref "jsx_expression"]),
  ("_jsx_attribute_name", choice [
    shownAs "property_identifier" (ref "_jsx_identifier"),
    ref "jsx_namespace_name"]),
  ("jsx_attribute", seq [
    ref "_jsx_attribute_name",
    optional (seq ["=", ref "_jsx_attribute_value"])]),
  ("_jsx_string", choice [
    seq [
      "\x22",
      many (choice [
        shownAs "string_fragment" (ref "unescaped_double_jsx_string_fragment"),
        ref "html_character_reference"]),
      "\x22"],
    seq [
      "'",
      many (choice [
        shownAs "string_fragment" (ref "unescaped_single_jsx_string_fragment"),
        ref "html_character_reference"]),
      "'"]]),
  ("unescaped_double_jsx_string_fragment", .immediate (prec 1 (shape r"([^\x22&]|&[^#A-Za-z])+"))),
  ("unescaped_single_jsx_string_fragment", .immediate (prec 1 (shape r"([^'&]|&[^#A-Za-z])+"))),
  ("_jsx_attribute_value", choice [
    shownAs "string" (ref "_jsx_string"),
    ref "jsx_expression",
    ref "_jsx_element"])]

/-- Functions, classes, calls and operators. -/
def operations : List (String × Rule) := [
  ("class", ranked "literal" (seq [
    many (field "decorator" (ref "decorator")),
    "class",
    field "name" (optional (ref "identifier")),
    optional (ref "class_heritage"),
    field "body" (ref "class_body")])),
  ("class_declaration", ranked "declare" (seq [
    many (field "decorator" (ref "decorator")),
    "class",
    field "name" (ref "identifier"),
    optional (ref "class_heritage"),
    field "body" (ref "class_body"),
    optional (ref "_automatic_semicolon")])),
  ("class_heritage", seq ["extends", ref "expression"]),
  ("function_expression", ranked "literal" (seq [
    optional "async",
    "function",
    field "name" (optional (ref "identifier")),
    ref "_call_signature",
    field "body" (ref "statement_block")])),
  ("function_declaration", rankedRight "declare" (seq [
    optional "async",
    "function",
    field "name" (ref "identifier"),
    ref "_call_signature",
    field "body" (ref "statement_block"),
    optional (ref "_automatic_semicolon")])),
  ("generator_function", ranked "literal" (seq [
    optional "async",
    "function",
    "*",
    field "name" (optional (ref "identifier")),
    ref "_call_signature",
    field "body" (ref "statement_block")])),
  ("generator_function_declaration", rankedRight "declare" (seq [
    optional "async",
    "function",
    "*",
    field "name" (ref "identifier"),
    ref "_call_signature",
    field "body" (ref "statement_block"),
    optional (ref "_automatic_semicolon")])),
  ("arrow_function", seq [
    optional "async",
    choice [
      field "parameter" (choice [
        shownAs "identifier" (ref "_reserved_identifier"),
        ref "identifier"]),
      ref "_call_signature"],
    "=>",
    field "body" (choice [ref "expression", ref "statement_block"])]),
  ("_call_signature", field "parameters" (ref "formal_parameters")),
  ("_formal_parameter", choice [ref "pattern", ref "assignment_pattern"]),
  ("optional_chain", "?."),
  ("call_expression", choice [
    ranked "call" (seq [
      field "function" (choice [ref "expression", ref "import"]),
      field "arguments" (ref "arguments")]),
    ranked "template_call" (seq [
      field "function" (choice [ref "primary_expression", ref "new_expression"]),
      field "arguments" (ref "template_string")]),
    ranked "member" (seq [
      field "function" (ref "primary_expression"),
      field "optional_chain" (ref "optional_chain"),
      field "arguments" (ref "arguments")])]),
  ("new_expression", rankedRight "new" (seq [
    "new",
    field "constructor" (choice [ref "primary_expression", ref "new_expression"]),
    field "arguments" (optional (.weight 1 (ref "arguments")))])),
  ("await_expression", ranked "unary_void" (seq ["await", ref "expression"])),
  ("member_expression", ranked "member" (seq [
    field "object" (choice [ref "expression", ref "primary_expression", ref "import"]),
    choice [".", field "optional_chain" (ref "optional_chain")],
    field "property" (choice [
      ref "private_property_identifier",
      shownAs "property_identifier" (ref "identifier")])])),
  ("subscript_expression", rankedRight "member" (seq [
    field "object" (choice [ref "expression", ref "primary_expression"]),
    optional (field "optional_chain" (ref "optional_chain")),
    "[",
    field "index" (ref "_expressions"),
    "]"])),
  ("_lhs_expression", choice [
    ref "member_expression",
    ref "subscript_expression",
    ref "_identifier",
    shownAs "identifier" (ref "_reserved_identifier"),
    ref "_destructuring_pattern"]),
  ("assignment_expression", rankedRight "assign" (seq [
    field "left" (choice [ref "parenthesized_expression", ref "_lhs_expression"]),
    "=",
    field "right" (ref "expression")])),
  ("_augmented_assignment_lhs", choice [
    ref "member_expression",
    ref "subscript_expression",
    shownAs "identifier" (ref "_reserved_identifier"),
    ref "identifier",
    ref "parenthesized_expression"]),
  ("augmented_assignment_expression", rankedRight "assign" (seq [
    field "left" (ref "_augmented_assignment_lhs"),
    field "operator" (choice [
      "+=", "-=", "*=", "/=", "%=", "^=", "&=", "|=", ">>=", ">>>=", "<<=", "**=", "&&=", "||=",
      "??="]),
    field "right" (ref "expression")])),
  ("_initializer", seq ["=", field "value" (ref "expression")]),
  ("_destructuring_pattern", choice [ref "object_pattern", ref "array_pattern"]),
  ("spread_element", seq ["...", ref "expression"]),
  ("ternary_expression", rankedRight "ternary" (seq [
    field "condition" (ref "expression"),
    shownAsSign "?" (ref "_ternary_qmark"),
    field "consequence" (ref "expression"),
    ":",
    field "alternative" (ref "expression")])),
  ("binary_expression", choice (binaryOperators.map fun (sign, rank, toRight) =>
    .binding (.rank rank) (some (if toRight then .right else .left)) (seq [
      field "left" (if sign == "in" then choice [ref "expression", ref "private_property_identifier"]
        else ref "expression"),
      field "operator" (.text sign),
      field "right" (ref "expression")]))),
  ("unary_expression", rankedLeft "unary_void" (seq [
    field "operator" (choice ["!", "~", "-", "+", "typeof", "void", "delete"]),
    field "argument" (ref "expression")])),
  ("update_expression", precLeft 0 (choice [
    seq [field "argument" (ref "expression"), field "operator" (choice ["++", "--"])],
    seq [field "operator" (choice ["++", "--"]), field "argument" (ref "expression")]])),
  ("sequence_expression", precRight 0 (commas1 (ref "expression")))]

/-! ### Tokens and parts of classes -/

/-- Strings, numbers, names, and the parts of classes and calls. -/
def primitives : List (String × Rule) := [
  ("string", choice [
    seq [
      "\x22",
      many (choice [
        shownAs "string_fragment" (ref "unescaped_double_string_fragment"),
        ref "escape_sequence"]),
      "\x22"],
    seq [
      "'",
      many (choice [
        shownAs "string_fragment" (ref "unescaped_single_string_fragment"),
        ref "escape_sequence"]),
      "'"]]),
  ("unescaped_double_string_fragment", .immediate (prec 1 (shape r"[^\x22\\\r\n]+"))),
  ("unescaped_single_string_fragment", .immediate (prec 1 (shape r"[^'\\\r\n]+"))),
  ("escape_sequence", .immediate (seq [
    "\\",
    choice [
      shape r"[^xu0-7]",
      shape r"[0-7]{1,3}",
      shape r"x[0-9a-fA-F]{2}",
      shape r"u[0-9a-fA-F]{4}",
      shape r"u\x7b[0-9a-fA-F]+\x7d",
      shape r"[\r?][\n\u2028\u2029]"]])),
  ("comment", .token (choice [
    seq ["//", shape r"[^\r\n\u2028\u2029]*"],
    seq ["/*", shape r"[^*]*\*+([^/*][^*]*\*+)*", "/"]])),
  ("template_string", seq [
    "\x60",
    many (choice [
      shownAs "string_fragment" (ref "_template_chars"),
      ref "escape_sequence",
      ref "template_substitution"]),
    "\x60"]),
  ("template_substitution", seq ["$\x7b", ref "_expressions", closeBrace]),
  ("regex", seq [
    "/",
    field "pattern" (ref "regex_pattern"),
    .immediate (prec 1 "/"),
    optional (field "flags" (ref "regex_flags"))]),
  ("regex_pattern", .immediate (prec (-1) (many1 (choice [
    seq [
      "[",
      many (choice [
        seq ["\\", shape r"."],
        shape r"[^\]\n\\]"]),
      "]"],
    seq ["\\", shape r"."],
    shape r"[^/\\\[\n]"])))),
  ("regex_flags", .immediate (shape r"[a-z]+")),
  ("number",
    let hexLiteral := seq [choice ["0x", "0X"], shape r"[\da-fA-F](_?[\da-fA-F])*"]
    let digits := shape r"\d(_?\d)*"
    let exponent := seq [choice ["e", "E"], optional (choice ["-", "+"]), digits]
    let binaryLiteral := seq [choice ["0b", "0B"], shape r"[0-1](_?[0-1])*"]
    let octalLiteral := seq [choice ["0o", "0O"], shape r"[0-7](_?[0-7])*"]
    let bigintLiteral := seq [choice [hexLiteral, binaryLiteral, octalLiteral, digits], "n"]
    let integerLiteral := choice [
      "0",
      seq [optional "0", shape r"[1-9]", optional (seq [optional "_", digits])]]
    let decimalLiteral := choice [
      seq [integerLiteral, ".", optional digits, optional exponent],
      seq [".", digits, optional exponent],
      seq [integerLiteral, exponent],
      digits]
    .token (choice [hexLiteral, decimalLiteral, binaryLiteral, octalLiteral, bigintLiteral])),
  ("_identifier", choice [ref "undefined", ref "identifier"]),
  ("identifier",
    .token (seq [letter, many letterOrDigit])),
  ("private_property_identifier",
    .token (seq ["#", letter, many letterOrDigit])),
  ("meta_property", choice [
    seq ["new", ".", "target"],
    seq ["import", ".", "meta"]]),
  ("this", .text "this"),
  ("super", .text "super"),
  ("true", .text "true"),
  ("false", .text "false"),
  ("null", .text "null"),
  ("undefined", .text "undefined"),
  ("arguments", seq [
    "(",
    commas (optional (choice [ref "expression", ref "spread_element"])),
    ")"]),
  ("decorator", seq [
    "@",
    choice [
      ref "identifier",
      shownAs "member_expression" (ref "decorator_member_expression"),
      shownAs "call_expression" (ref "decorator_call_expression")]]),
  ("decorator_member_expression", ranked "member" (seq [
    field "object" (choice [
      ref "identifier",
      shownAs "member_expression" (ref "decorator_member_expression")]),
    ".",
    field "property" (shownAs "property_identifier" (ref "identifier"))])),
  ("decorator_call_expression", ranked "call" (seq [
    field "function" (choice [
      ref "identifier",
      shownAs "member_expression" (ref "decorator_member_expression")]),
    field "arguments" (ref "arguments")])),
  ("class_body", seq [
    openBrace,
    many (choice [
      seq [field "member" (ref "method_definition"), optional ";"],
      seq [field "member" (ref "field_definition"), ref "_semicolon"],
      field "member" (ref "class_static_block"),
      ";"]),
    closeBrace]),
  ("field_definition", seq [
    many (field "decorator" (ref "decorator")),
    optional (choice ["static", staticGet]),
    field "property" (ref "_property_name"),
    optional (ref "_initializer")]),
  ("formal_parameters", seq [
    "(",
    optional (seq [commas1 (ref "_formal_parameter"), optional ","]),
    ")"]),
  ("class_static_block", seq [
    "static",
    optional (ref "_automatic_semicolon"),
    field "body" (ref "statement_block")]),
  ("pattern", .weight (-1) (choice [ref "_lhs_expression", ref "rest_pattern"])),
  ("rest_pattern", precRight 0 (seq ["...", ref "_lhs_expression"])),
  ("method_definition", seq [
    many (field "decorator" (ref "decorator")),
    optional (choice ["static", staticGet]),
    optional "async",
    optional (choice ["get", "set", "*"]),
    field "name" (ref "_property_name"),
    field "parameters" (ref "formal_parameters"),
    field "body" (ref "statement_block")]),
  ("pair", seq [field "key" (ref "_property_name"), ":", field "value" (ref "expression")]),
  ("pair_pattern", seq [
    field "key" (ref "_property_name"),
    ":",
    field "value" (choice [ref "pattern", ref "assignment_pattern"])]),
  ("_property_name", choice [
    shownAs "property_identifier" (choice [ref "identifier", ref "_reserved_identifier"]),
    ref "private_property_identifier",
    ref "string",
    ref "number",
    ref "computed_property_name"]),
  ("computed_property_name", seq ["[", ref "expression", "]"]),
  ("_reserved_identifier", choice ["get", "set", "async", "static", "export", "let"]),
  ("_semicolon", choice [ref "_automatic_semicolon", ";"])]

/-- The grammar of JavaScript. -/
def grammar : Spec where
  rules := modules ++ statements ++ expressions ++ markup ++ operations ++ primitives
  extras := [
    ref "comment",
    ref "html_comment",
    shape r"[\s\p{Zs}\uFEFF\u2028\u2029\u2060\u200B]"]
  externals := [
    ref "_automatic_semicolon", ref "_template_chars", ref "_ternary_qmark", ref "html_comment", "||",
    ref "escape_sequence", ref "regex_pattern", ref "jsx_text"]
  inlined := [
    "_call_signature", "_formal_parameter", "_expressions", "_semicolon", "_identifier",
    "_reserved_identifier", "_jsx_attribute", "_jsx_element_name", "_jsx_child", "_jsx_element",
    "_jsx_attribute_name", "_jsx_attribute_value", "_jsx_identifier", "_lhs_expression"]
  categories := ["statement", "declaration", "expression", "primary_expression", "pattern"]
  word := some "identifier"
  rankings := rankings

end CodeAtlas.Language.JavaScript
