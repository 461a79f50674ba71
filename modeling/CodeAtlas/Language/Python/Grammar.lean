import CodeAtlas.Grammar.Rule

/-!
The grammar of Python, with the print and exec statements of its second version and the match statements and type
parameters of its third.
-/
namespace CodeAtlas.Language.Python

open CodeAtlas.Grammar

/-! ### Levels of binding -/

/-- Lambda expressions. -/
def lambdaLevel : Int := -2
/-- Parameters with a type. -/
def typedLevel : Int := -1
/-- Conditional expressions. -/
def conditionalLevel : Int := -1
/-- Calls, attributes and subscripts. -/
def callLevel : Int := 22

/-- The binary operators with their levels; those that group to the right are marked. -/
def binaryOperators : List (String × Int × Bool) := [
  ("+", 18, false), ("-", 18, false), ("*", 19, false), ("@", 19, false), ("/", 19, false),
  ("%", 19, false), ("//", 19, false), ("**", 21, true), ("|", 14, false), ("&", 15, false),
  ("^", 16, false), ("<<", 17, false), (">>", 17, false)]

/-! ### Statements -/

/-- Modules and simple statements. -/
def simpleStatements : List (String × Rule) := [
  ("module", many (ref "_statement")),
  ("_statement", choice [ref "_simple_statements", ref "_compound_statement"]),
  ("_simple_statements", seq [
    sepBy1 ";" (ref "_simple_statement"),
    optional ";",
    ref "_newline"]),
  ("_simple_statement", choice [
    ref "future_import_statement",
    ref "import_statement",
    ref "import_from_statement",
    ref "print_statement",
    ref "assert_statement",
    ref "expression_statement",
    ref "return_statement",
    ref "delete_statement",
    ref "raise_statement",
    ref "pass_statement",
    ref "break_statement",
    ref "continue_statement",
    ref "global_statement",
    ref "nonlocal_statement",
    ref "exec_statement",
    ref "type_alias_statement"]),
  ("import_statement", seq ["import", ref "_import_list"]),
  ("import_prefix", many1 "."),
  ("relative_import", seq [ref "import_prefix", optional (ref "dotted_name")]),
  ("future_import_statement", seq [
    "from",
    "__future__",
    "import",
    choice [ref "_import_list", seq ["(", ref "_import_list", ")"]]]),
  ("import_from_statement", seq [
    "from",
    field "module_name" (choice [ref "relative_import", ref "dotted_name"]),
    "import",
    choice [
      ref "wildcard_import",
      ref "_import_list",
      seq ["(", ref "_import_list", ")"]]]),
  ("_import_list", seq [
    commas1 (field "name" (choice [ref "dotted_name", ref "aliased_import"])),
    optional ","]),
  ("aliased_import", seq [
    field "name" (ref "dotted_name"),
    "as",
    field "alias" (ref "identifier")]),
  ("wildcard_import", "*"),
  ("print_statement", choice [
    prec 1 (seq [
      "print",
      ref "chevron",
      many (seq [",", field "argument" (ref "expression")]),
      optional ","]),
    prec (-3) (.weight (-1) (seq [
      "print",
      commas1 (field "argument" (ref "expression")),
      optional ","]))]),
  ("chevron", seq [">>", ref "expression"]),
  ("assert_statement", seq ["assert", commas1 (ref "expression")]),
  ("expression_statement", choice [
    ref "expression",
    seq [commas1 (ref "expression"), optional ","],
    ref "assignment",
    ref "augmented_assignment",
    ref "yield"]),
  ("named_expression", seq [
    field "name" (ref "_named_expression_lhs"),
    ":=",
    field "value" (ref "expression")]),
  ("_named_expression_lhs", choice [ref "identifier", ref "keyword_identifier"]),
  ("return_statement", seq ["return", optional (ref "_expressions")]),
  ("delete_statement", seq ["del", ref "_expressions"]),
  ("_expressions", choice [ref "expression", ref "expression_list"]),
  ("raise_statement", seq [
    "raise",
    optional (ref "_expressions"),
    optional (seq ["from", field "cause" (ref "expression")])]),
  ("pass_statement", precLeft 0 "pass"),
  ("break_statement", precLeft 0 "break"),
  ("continue_statement", precLeft 0 "continue")]

/-- Compound statements and definitions. -/
def compoundStatements : List (String × Rule) := [
  ("_compound_statement", choice [
    ref "if_statement",
    ref "for_statement",
    ref "while_statement",
    ref "try_statement",
    ref "with_statement",
    ref "function_definition",
    ref "class_definition",
    ref "decorated_definition",
    ref "match_statement"]),
  ("if_statement", seq [
    "if",
    field "condition" (ref "expression"),
    ":",
    field "consequence" (ref "_suite"),
    many (field "alternative" (ref "elif_clause")),
    optional (field "alternative" (ref "else_clause"))]),
  ("elif_clause", seq [
    "elif",
    field "condition" (ref "expression"),
    ":",
    field "consequence" (ref "_suite")]),
  ("else_clause", seq ["else", ":", field "body" (ref "_suite")]),
  ("match_statement", seq [
    "match",
    commas1 (field "subject" (ref "expression")),
    optional ",",
    ":",
    field "body" (shownAs "block" (ref "_match_block"))]),
  ("_match_block", choice [
    seq [ref "_indent", many (field "alternative" (ref "case_clause")), ref "_dedent"],
    ref "_newline"]),
  ("case_clause", seq [
    "case",
    commas1 (ref "case_pattern"),
    optional ",",
    optional (field "guard" (ref "if_clause")),
    ":",
    field "consequence" (ref "_suite")]),
  ("for_statement", seq [
    optional "async",
    "for",
    field "left" (ref "_left_hand_side"),
    "in",
    field "right" (ref "_expressions"),
    ":",
    field "body" (ref "_suite"),
    field "alternative" (optional (ref "else_clause"))]),
  ("while_statement", seq [
    "while",
    field "condition" (ref "expression"),
    ":",
    field "body" (ref "_suite"),
    optional (field "alternative" (ref "else_clause"))]),
  ("try_statement", seq [
    "try",
    ":",
    field "body" (ref "_suite"),
    choice [
      seq [
        many1 (ref "except_clause"),
        optional (ref "else_clause"),
        optional (ref "finally_clause")],
      seq [
        many1 (ref "except_group_clause"),
        optional (ref "else_clause"),
        optional (ref "finally_clause")],
      ref "finally_clause"]]),
  ("except_clause", seq [
    "except",
    optional (seq [
      field "value" (ref "expression"),
      optional (seq [choice ["as", ","], field "alias" (ref "expression")])]),
    ":",
    ref "_suite"]),
  ("except_group_clause", seq [
    "except*",
    seq [ref "expression", optional (seq ["as", ref "expression"])],
    ":",
    ref "_suite"]),
  ("finally_clause", seq ["finally", ":", ref "_suite"]),
  ("with_statement", seq [
    optional "async",
    "with",
    ref "with_clause",
    ":",
    field "body" (ref "_suite")]),
  ("with_clause", choice [
    seq [commas1 (ref "with_item"), optional ","],
    seq ["(", commas1 (ref "with_item"), optional ",", ")"]]),
  ("with_item", .weight 1 (field "value" (ref "expression"))),
  ("function_definition", seq [
    optional "async",
    "def",
    field "name" (ref "identifier"),
    field "type_parameters" (optional (ref "type_parameter")),
    field "parameters" (ref "parameters"),
    optional (seq ["->", field "return_type" (ref "type")]),
    ":",
    field "body" (ref "_suite")]),
  ("parameters", seq ["(", optional (ref "_parameters"), ")"]),
  ("lambda_parameters", ref "_parameters"),
  ("list_splat", seq ["*", ref "expression"]),
  ("dictionary_splat", seq ["**", ref "expression"]),
  ("global_statement", seq ["global", commas1 (ref "identifier")]),
  ("nonlocal_statement", seq ["nonlocal", commas1 (ref "identifier")]),
  ("exec_statement", seq [
    "exec",
    field "code" (choice [ref "string", ref "identifier"]),
    optional (seq ["in", commas1 (ref "expression")])]),
  ("type_alias_statement", .weight 1 (seq [
    "type",
    field "left" (ref "type"),
    "=",
    field "right" (ref "type")])),
  ("class_definition", seq [
    "class",
    field "name" (ref "identifier"),
    field "type_parameters" (optional (ref "type_parameter")),
    field "superclasses" (optional (ref "argument_list")),
    ":",
    field "body" (ref "_suite")]),
  ("type_parameter", seq ["[", commas1 (ref "type"), optional ",", "]"]),
  ("parenthesized_list_splat", prec 1 (seq [
    "(",
    choice [
      shownAs "parenthesized_expression" (ref "parenthesized_list_splat"),
      ref "list_splat"],
    ")"])),
  ("argument_list", seq [
    "(",
    optional (commas1 (choice [
      ref "expression",
      ref "list_splat",
      ref "dictionary_splat",
      shownAs "parenthesized_expression" (ref "parenthesized_list_splat"),
      ref "keyword_argument"])),
    optional ",",
    ")"]),
  ("decorated_definition", seq [
    many1 (ref "decorator"),
    field "definition" (choice [ref "class_definition", ref "function_definition"])]),
  ("decorator", seq ["@", ref "expression", ref "_newline"]),
  ("_suite", choice [
    shownAs "block" (ref "_simple_statements"),
    seq [ref "_indent", ref "block"],
    shownAs "block" (ref "_newline")]),
  ("block", seq [many (ref "_statement"), ref "_dedent"])]

/-! ### Patterns -/

/-- Patterns of match statements, assignment targets and parameters. -/
def patterns : List (String × Rule) := [
  ("expression_list", precRight 0 (seq [
    ref "expression",
    choice [
      ",",
      seq [many1 (seq [",", ref "expression"]), optional ","]]])),
  ("dotted_name", prec 1 (sepBy1 "." (ref "identifier"))),
  ("case_pattern", prec 1 (choice [
    shownAs "as_pattern" (ref "_as_pattern"),
    ref "keyword_pattern",
    ref "_simple_pattern"])),
  ("_simple_pattern", prec 1 (choice [
    ref "class_pattern",
    ref "splat_pattern",
    ref "union_pattern",
    shownAs "list_pattern" (ref "_list_pattern"),
    shownAs "tuple_pattern" (ref "_tuple_pattern"),
    ref "dict_pattern",
    ref "string",
    ref "concatenated_string",
    ref "true",
    ref "false",
    ref "none",
    seq [optional "-", choice [ref "integer", ref "float"]],
    ref "complex_pattern",
    ref "dotted_name",
    "_"])),
  ("_as_pattern", seq [ref "case_pattern", "as", ref "identifier"]),
  ("union_pattern", precRight 0 (seq [
    ref "_simple_pattern",
    many1 (precLeft 0 (seq ["|", ref "_simple_pattern"]))])),
  ("_list_pattern", seq [
    "[",
    optional (seq [commas1 (ref "case_pattern"), optional ","]),
    "]"]),
  ("_tuple_pattern", seq [
    "(",
    optional (seq [commas1 (ref "case_pattern"), optional ","]),
    ")"]),
  ("dict_pattern", seq [
    openBrace,
    optional (seq [
      commas1 (choice [ref "_key_value_pattern", ref "splat_pattern"]),
      optional ","]),
    closeBrace]),
  ("_key_value_pattern", seq [
    field "key" (ref "_simple_pattern"),
    ":",
    field "value" (ref "case_pattern")]),
  ("keyword_pattern", seq [ref "identifier", "=", ref "_simple_pattern"]),
  ("splat_pattern", prec 1 (seq [choice ["*", "**"], choice [ref "identifier", "_"]])),
  ("class_pattern", seq [
    ref "dotted_name",
    "(",
    optional (seq [commas1 (ref "case_pattern"), optional ","]),
    ")"]),
  ("complex_pattern", prec 1 (seq [
    optional "-",
    choice [ref "integer", ref "float"],
    choice ["+", "-"],
    choice [ref "integer", ref "float"]])),
  ("_parameters", seq [commas1 (ref "parameter"), optional ","]),
  ("_patterns", seq [commas1 (ref "pattern"), optional ","]),
  ("parameter", choice [
    ref "identifier",
    ref "typed_parameter",
    ref "default_parameter",
    ref "typed_default_parameter",
    ref "list_splat_pattern",
    ref "tuple_pattern",
    ref "keyword_separator",
    ref "positional_separator",
    ref "dictionary_splat_pattern"]),
  ("pattern", choice [
    ref "identifier",
    ref "keyword_identifier",
    ref "subscript",
    ref "attribute",
    ref "list_splat_pattern",
    ref "tuple_pattern",
    ref "list_pattern"]),
  ("tuple_pattern", seq ["(", optional (ref "_patterns"), ")"]),
  ("list_pattern", seq ["[", optional (ref "_patterns"), "]"]),
  ("default_parameter", seq [
    field "name" (choice [ref "identifier", ref "tuple_pattern"]),
    "=",
    field "value" (ref "expression")]),
  ("typed_default_parameter", prec typedLevel (seq [
    field "name" (ref "identifier"),
    ":",
    field "type" (ref "type"),
    "=",
    field "value" (ref "expression")])),
  ("list_splat_pattern", seq [
    "*",
    choice [ref "identifier", ref "keyword_identifier", ref "subscript", ref "attribute"]]),
  ("dictionary_splat_pattern", seq [
    "**",
    choice [ref "identifier", ref "keyword_identifier", ref "subscript", ref "attribute"]]),
  ("as_pattern", precLeft 0 (seq [
    ref "expression",
    "as",
    field "alias" (shownAs "as_pattern_target" (ref "expression"))]))]

/-! ### Expressions -/

/-- Operators, assignments and types. -/
def expressions : List (String × Rule) := [
  ("_expression_within_for_in_clause", choice [
    ref "expression",
    shownAs "lambda" (ref "lambda_within_for_in_clause")]),
  ("expression", choice [
    ref "comparison_operator",
    ref "not_operator",
    ref "boolean_operator",
    ref "lambda",
    ref "primary_expression",
    ref "conditional_expression",
    ref "named_expression",
    ref "as_pattern"]),
  ("primary_expression", choice [
    ref "await",
    ref "binary_operator",
    ref "identifier",
    ref "keyword_identifier",
    ref "string",
    ref "concatenated_string",
    ref "integer",
    ref "float",
    ref "true",
    ref "false",
    ref "none",
    ref "unary_operator",
    ref "attribute",
    ref "subscript",
    ref "call",
    ref "list",
    ref "list_comprehension",
    ref "dictionary",
    ref "dictionary_comprehension",
    ref "set",
    ref "set_comprehension",
    ref "tuple",
    ref "parenthesized_expression",
    ref "generator_expression",
    ref "ellipsis",
    shownAs "list_splat" (ref "list_splat_pattern")]),
  ("not_operator", prec 12 (seq ["not", field "argument" (ref "expression")])),
  ("boolean_operator", choice [
    precLeft 11 (seq [
      field "left" (ref "expression"),
      field "operator" "and",
      field "right" (ref "expression")]),
    precLeft 10 (seq [
      field "left" (ref "expression"),
      field "operator" "or",
      field "right" (ref "expression")])]),
  ("binary_operator", choice (binaryOperators.map fun (sign, level, toRight) =>
    .binding (.level level) (some (if toRight then .right else .left)) (seq [
      field "left" (ref "primary_expression"),
      field "operator" (.text sign),
      field "right" (ref "primary_expression")]))),
  ("unary_operator", prec 20 (seq [
    field "operator" (choice ["+", "-", "~"]),
    field "argument" (ref "primary_expression")])),
  ("_not_in", seq ["not", "in"]),
  ("_is_not", seq ["is", "not"]),
  ("comparison_operator", precLeft 13 (seq [
    ref "primary_expression",
    many1 (seq [
      field "operators" (choice [
        "<",
        "<=",
        "==",
        "!=",
        ">=",
        ">",
        "<>",
        "in",
        shownAsSign "not in" (ref "_not_in"),
        "is",
        shownAsSign "is not" (ref "_is_not")]),
      ref "primary_expression"])])),
  ("lambda", prec lambdaLevel (seq [
    "lambda",
    field "parameters" (optional (ref "lambda_parameters")),
    ":",
    field "body" (ref "expression")])),
  ("lambda_within_for_in_clause", seq [
    "lambda",
    field "parameters" (optional (ref "lambda_parameters")),
    ":",
    field "body" (ref "_expression_within_for_in_clause")]),
  ("assignment", seq [
    field "left" (ref "_left_hand_side"),
    choice [
      seq ["=", field "right" (ref "_right_hand_side")],
      seq [":", field "type" (ref "type")],
      seq [":", field "type" (ref "type"), "=", field "right" (ref "_right_hand_side")]]]),
  ("augmented_assignment", seq [
    field "left" (ref "_left_hand_side"),
    field "operator" (choice [
      "+=", "-=", "*=", "/=", "@=", "//=", "%=", "**=", ">>=", "<<=", "&=", "^=", "|="]),
    field "right" (ref "_right_hand_side")]),
  ("_left_hand_side", choice [ref "pattern", ref "pattern_list"]),
  ("pattern_list", seq [
    ref "pattern",
    choice [
      ",",
      seq [many1 (seq [",", ref "pattern"]), optional ","]]]),
  ("_right_hand_side", choice [
    ref "expression",
    ref "expression_list",
    ref "assignment",
    ref "augmented_assignment",
    ref "pattern_list",
    ref "yield"]),
  ("yield", precRight 0 (seq [
    "yield",
    choice [
      seq ["from", ref "expression"],
      optional (ref "_expressions")]])),
  ("attribute", prec callLevel (seq [
    field "object" (ref "primary_expression"),
    ".",
    field "attribute" (ref "identifier")])),
  ("subscript", prec callLevel (seq [
    field "value" (ref "primary_expression"),
    "[",
    commas1 (field "subscript" (choice [ref "expression", ref "slice"])),
    optional ",",
    "]"])),
  ("slice", seq [
    optional (ref "expression"),
    ":",
    optional (ref "expression"),
    optional (seq [":", optional (ref "expression")])]),
  ("ellipsis", "..."),
  ("call", prec callLevel (seq [
    field "function" (ref "primary_expression"),
    field "arguments" (choice [ref "generator_expression", ref "argument_list"])])),
  ("typed_parameter", prec typedLevel (seq [
    choice [
      ref "identifier",
      ref "list_splat_pattern",
      ref "dictionary_splat_pattern"],
    ":",
    field "type" (ref "type")])),
  ("type", choice [
    prec 1 (ref "expression"),
    ref "splat_type",
    ref "generic_type",
    ref "union_type",
    ref "constrained_type",
    ref "member_type"]),
  ("splat_type", prec 1 (seq [choice ["*", "**"], ref "identifier"])),
  ("generic_type", prec 1 (seq [
    choice [ref "identifier", shownAs "identifier" "type"],
    ref "type_parameter"])),
  ("union_type", precLeft 0 (seq [ref "type", "|", ref "type"])),
  ("constrained_type", precRight 0 (seq [ref "type", ":", ref "type"])),
  ("member_type", seq [ref "type", ".", ref "identifier"]),
  ("keyword_argument", seq [
    field "name" (choice [ref "identifier", ref "keyword_identifier"]),
    "=",
    field "value" (ref "expression")])]

/-! ### Literals -/

/-- Collections, comprehensions and strings. -/
def literals : List (String × Rule) := [
  ("list", seq ["[", optional (ref "_collection_elements"), "]"]),
  ("set", seq [openBrace, ref "_collection_elements", closeBrace]),
  ("tuple", seq ["(", optional (ref "_collection_elements"), ")"]),
  ("dictionary", seq [
    openBrace,
    optional (commas1 (choice [ref "pair", ref "dictionary_splat"])),
    optional ",",
    closeBrace]),
  ("pair", seq [field "key" (ref "expression"), ":", field "value" (ref "expression")]),
  ("list_comprehension", seq [
    "[", field "body" (ref "expression"), ref "_comprehension_clauses", "]"]),
  ("dictionary_comprehension", seq [
    openBrace, field "body" (ref "pair"), ref "_comprehension_clauses", closeBrace]),
  ("set_comprehension", seq [
    openBrace, field "body" (ref "expression"), ref "_comprehension_clauses", closeBrace]),
  ("generator_expression", seq [
    "(", field "body" (ref "expression"), ref "_comprehension_clauses", ")"]),
  ("_comprehension_clauses", seq [
    ref "for_in_clause",
    many (choice [ref "for_in_clause", ref "if_clause"])]),
  ("parenthesized_expression", prec 1 (seq [
    "(",
    choice [ref "expression", ref "yield"],
    ")"])),
  ("_collection_elements", seq [
    commas1 (choice [
      ref "expression", ref "yield", ref "list_splat", ref "parenthesized_list_splat"]),
    optional ","]),
  ("for_in_clause", precLeft 0 (seq [
    optional "async",
    "for",
    field "left" (ref "_left_hand_side"),
    "in",
    field "right" (commas1 (ref "_expression_within_for_in_clause")),
    optional ","])),
  ("if_clause", seq ["if", ref "expression"]),
  ("conditional_expression", precRight conditionalLevel (seq [
    ref "expression",
    "if",
    ref "expression",
    "else",
    ref "expression"])),
  ("concatenated_string", seq [ref "string", many1 (ref "string")]),
  ("string", seq [
    ref "string_start",
    many (choice [ref "interpolation", ref "string_content"]),
    ref "string_end"]),
  ("string_content", precRight 0 (many1 (choice [
    ref "escape_interpolation",
    ref "escape_sequence",
    ref "_not_escape_sequence",
    ref "_string_content"]))),
  ("interpolation", seq [
    openBrace,
    field "expression" (ref "_f_expression"),
    optional "=",
    optional (field "type_conversion" (ref "type_conversion")),
    optional (field "format_specifier" (ref "format_specifier")),
    closeBrace]),
  ("_f_expression", choice [
    ref "expression",
    ref "expression_list",
    ref "pattern_list",
    ref "yield"]),
  ("escape_sequence", .immediate (prec 1 (seq [
    "\\",
    choice [
      shape r"u[a-fA-F\d]{4}",
      shape r"U[a-fA-F\d]{8}",
      shape r"x[a-fA-F\d]{2}",
      shape r"\d{1,3}",
      shape r"\r?\n",
      shape r#"['"abfrntv\\]"#,
      shape r"N\x7b[^\x7d]+\x7d"]]))),
  ("_not_escape_sequence", .immediate "\\"),
  ("format_specifier", seq [
    ":",
    many (choice [
      .token (prec 1 (shape r"[^\x7b\x7d\n]+")),
      shownAs "format_expression" (ref "interpolation")])]),
  ("type_conversion", shape r"![a-z]"),
  ("integer", .token (choice [
    seq [choice ["0x", "0X"], many1 (shape r"_?[A-Fa-f0-9]+"), optional (shape r"[Ll]")],
    seq [choice ["0o", "0O"], many1 (shape r"_?[0-7]+"), optional (shape r"[Ll]")],
    seq [choice ["0b", "0B"], many1 (shape r"_?[0-1]+"), optional (shape r"[Ll]")],
    seq [
      many1 (shape r"[0-9]+_?"),
      choice [optional (shape r"[Ll]"), optional (shape r"[jJ]")]]])),
  ("float",
    let digits := many1 (shape r"[0-9]+_?")
    let exponent := seq [shape r"[eE][\+-]?", digits]
    .token (seq [
      choice [
        seq [digits, ".", optional digits, optional exponent],
        seq [optional digits, ".", digits, optional exponent],
        seq [digits, exponent]],
      optional (choice [shape r"[Ll]", shape r"[jJ]"])])),
  ("identifier", shape r"[_\p{XID_Start}][_\p{XID_Continue}]*"),
  ("keyword_identifier", choice [
    prec (-3) (shownAs "identifier" (choice ["print", "exec", "async", "await"])),
    shownAs "identifier" (choice ["type", "match"])]),
  ("true", "True"),
  ("false", "False"),
  ("none", "None"),
  ("await", prec 20 (seq ["await", ref "primary_expression"])),
  ("comment", .token (seq ["#", shape r".*"])),
  ("line_continuation", .token (seq ["\\", choice [seq [optional "\r", "\n"], "\x00"]])),
  ("positional_separator", "/"),
  ("keyword_separator", "*")]

/-- The grammar of Python. -/
def grammar : Spec where
  rules := simpleStatements ++ compoundStatements ++ patterns ++ expressions ++ literals
  extras := [ref "comment", shape r"[\s\f\uFEFF\u2060\u200B]|\r?\n", ref "line_continuation"]
  externals := [
    ref "_newline", ref "_indent", ref "_dedent", ref "string_start", ref "_string_content",
    ref "escape_interpolation", ref "string_end", ref "comment", "]", ")", closeBrace, "except"]
  inlined := [
    "_simple_statement", "_compound_statement", "_suite", "_expressions", "_left_hand_side",
    "keyword_identifier"]
  categories := [
    "_simple_statement", "_compound_statement", "expression", "primary_expression", "pattern",
    "parameter"]
  word := some "identifier"
  rankings := []

end CodeAtlas.Language.Python
