import CodeAtlas.Grammar.Rule

/-!
The grammar of Java, with records, sealed types, patterns in switches, and string templates.
-/
namespace CodeAtlas.Language.Java

open CodeAtlas.Grammar

/-! ### Levels of binding -/

/-- Declarations and values of annotations. -/
def declarationLevel : Int := 2
/-- Comparisons and type tests. -/
def relationLevel : Int := 10
/-- Prefix and postfix operators. -/
def unaryLevel : Int := 15

/-- The binary operators with their levels. -/
def binaryOperators : List (String × Int) := [
  (">", 10), ("<", 10), (">=", 10), ("<=", 10), ("==", 9), ("!=", 9), ("&&", 5), ("||", 4),
  ("+", 12), ("-", 12), ("*", 13), ("/", 13), ("&", 8), ("|", 6), ("^", 7), ("%", 13),
  ("<<", 11), (">>", 11), (">>>", 11)]

/-- A name, which may be a word that is a keyword elsewhere. -/
def anyName : Rule := choice [ref "identifier", ref "_reserved_identifier"]

/-- A name of a type. -/
def typeName : Rule := shownAs "type_identifier" (ref "identifier")

/-- A name of a type that is a keyword elsewhere. -/
def reservedTypeName : Rule := shownAs "type_identifier" (ref "_reserved_identifier")

/-! ### Digits -/

/-- A decimal number without leading zeros. -/
def plainDigits : Rule := choice [
  "0",
  seq [shape r"[1-9]", optional (seq [optional "_", sepBy1 (shape r"_+") (shape r"[0-9]+")])]]

/-- Decimal digits. -/
def decimalDigits : Rule := sepBy1 "_" (shape r"[0-9]+")

/-- Hexadecimal digits. -/
def hexDigits : Rule := sepBy1 "_" (shape r"[A-Fa-f0-9]+")

/-- An exponent of ten. -/
def exponent : Rule := seq [shape r"[eE]", optional (choice ["-", "+"]), decimalDigits]

/-! ### Literals and expressions -/

/-- Programs and literals. -/
def literals : List (String × Rule) := [
  ("program", many (ref "_toplevel_statement")),
  ("_toplevel_statement", choice [ref "statement", ref "method_declaration"]),
  ("_literal", choice [
    ref "decimal_integer_literal",
    ref "hex_integer_literal",
    ref "octal_integer_literal",
    ref "binary_integer_literal",
    ref "decimal_floating_point_literal",
    ref "hex_floating_point_literal",
    ref "true",
    ref "false",
    ref "character_literal",
    ref "string_literal",
    ref "null_literal"]),
  ("decimal_integer_literal", .token (seq [plainDigits, optional (choice ["l", "L"])])),
  ("hex_integer_literal", .token (seq [
    choice ["0x", "0X"], hexDigits, optional (choice ["l", "L"])])),
  ("octal_integer_literal", .token (seq [
    choice ["0o", "0O", "0"], sepBy1 "_" (shape r"[0-7]+"), optional (choice ["l", "L"])])),
  ("binary_integer_literal", .token (seq [
    choice ["0b", "0B"], sepBy1 "_" (shape r"[01]+"), optional (choice ["l", "L"])])),
  ("decimal_floating_point_literal", .token (choice [
    seq [decimalDigits, ".", optional decimalDigits, optional exponent, optional (shape r"[fFdD]")],
    seq [".", decimalDigits, optional exponent, optional (shape r"[fFdD]")],
    seq [plainDigits, exponent, optional (shape r"[fFdD]")],
    seq [plainDigits, optional exponent, shape r"[fFdD]"]])),
  ("hex_floating_point_literal", .token (seq [
    choice ["0x", "0X"],
    choice [
      seq [hexDigits, optional "."],
      seq [optional hexDigits, ".", hexDigits]],
    optional (seq [
      shape r"[pP]", optional (choice ["-", "+"]), plainDigits, optional (shape r"[fFdD]")])])),
  ("true", .text "true"),
  ("false", .text "false"),
  ("character_literal", .token (seq [
    "'",
    many1 (choice [shape r"[^\\'\n]", shape r"\\.", shape r"\\\n"]),
    "'"])),
  ("string_literal", choice [ref "_string_literal", ref "_multiline_string_literal"]),
  ("_string_literal", seq [
    "\x22",
    many (choice [ref "string_fragment", ref "escape_sequence", ref "string_interpolation"]),
    "\x22"]),
  ("_multiline_string_literal", seq [
    "\x22\x22\x22",
    many (choice [
      shownAs "multiline_string_fragment" (ref "_multiline_string_fragment"),
      ref "_escape_sequence",
      ref "string_interpolation"]),
    "\x22\x22\x22"]),
  ("string_fragment", .immediate (prec 1 (shape r"[^\x22\\]+"))),
  ("_multiline_string_fragment", choice [
    shape r"[^\x22\\]+",
    shape r"\x22([^\x22\\]|\\\x22)*"]),
  ("string_interpolation", seq ["\\\x7b", ref "expression", closeBrace]),
  ("_escape_sequence", choice [
    prec 2 (.immediate (seq ["\\", shape r"[^bfnrts'\x22\\]"])),
    prec 1 (ref "escape_sequence")]),
  ("escape_sequence", .immediate (seq [
    "\\",
    choice [
      shape r"[^xu0-7]",
      shape r"[0-7]{1,3}",
      shape r"x[0-9a-fA-F]{2}",
      shape r"u[0-9a-fA-F]{4}",
      shape r"u\x7b[0-9a-fA-F]+\x7d"]])),
  ("null_literal", .text "null")]

/-- Expressions. -/
def expressions : List (String × Rule) := [
  ("expression", choice [
    ref "assignment_expression",
    ref "binary_expression",
    ref "instanceof_expression",
    ref "lambda_expression",
    ref "ternary_expression",
    ref "update_expression",
    ref "primary_expression",
    ref "unary_expression",
    ref "cast_expression",
    ref "switch_expression"]),
  ("cast_expression", prec 14 (choice [
    seq ["(", field "type" (ref "_type"), ")", field "value" (ref "expression")],
    seq [
      "(",
      sepBy1 "&" (field "type" (ref "_type")),
      ")",
      field "value" (choice [ref "primary_expression", ref "lambda_expression"])]])),
  ("assignment_expression", precRight 1 (seq [
    field "left" (choice [
      ref "identifier",
      ref "_reserved_identifier",
      ref "field_access",
      ref "array_access"]),
    field "operator" (choice [
      "=", "+=", "-=", "*=", "/=", "&=", "|=", "^=", "%=", "<<=", ">>=", ">>>="]),
    field "right" (ref "expression")])),
  ("binary_expression", choice (binaryOperators.map fun (sign, level) =>
    precLeft level (seq [
      field "left" (ref "expression"),
      field "operator" (.text sign),
      field "right" (ref "expression")]))),
  ("instanceof_expression", prec relationLevel (seq [
    field "left" (ref "expression"),
    "instanceof",
    optional "final",
    choice [
      seq [field "right" (ref "_type"), optional (field "name" anyName)],
      field "pattern" (ref "record_pattern")]])),
  ("lambda_expression", seq [
    field "parameters" (choice [
      ref "identifier",
      ref "formal_parameters",
      ref "inferred_parameters",
      ref "_reserved_identifier"]),
    "->",
    field "body" (choice [ref "expression", ref "block"])]),
  ("inferred_parameters", seq ["(", commas1 anyName, ")"]),
  ("ternary_expression", precRight 3 (seq [
    field "condition" (ref "expression"),
    "?",
    field "consequence" (ref "expression"),
    ":",
    field "alternative" (ref "expression")])),
  ("unary_expression", choice (["+", "-", "!", "~"].map fun (sign : String) =>
    precLeft unaryLevel (seq [
      field "operator" (.text sign),
      field "operand" (ref "expression")]))),
  ("update_expression", precLeft unaryLevel (choice [
    seq [ref "expression", "++"],
    seq [ref "expression", "--"],
    seq ["++", ref "expression"],
    seq ["--", ref "expression"]])),
  ("primary_expression", choice [
    ref "_literal",
    ref "class_literal",
    ref "this",
    ref "identifier",
    ref "_reserved_identifier",
    ref "parenthesized_expression",
    ref "object_creation_expression",
    ref "field_access",
    ref "array_access",
    ref "method_invocation",
    ref "method_reference",
    ref "array_creation_expression",
    ref "template_expression"]),
  ("array_creation_expression", precRight 0 (seq [
    "new",
    many (ref "_annotation"),
    field "type" (ref "_simple_type"),
    choice [
      seq [
        field "dimensions" (many1 (ref "dimensions_expr")),
        field "dimensions" (optional (ref "dimensions"))],
      seq [
        field "dimensions" (ref "dimensions"),
        field "value" (ref "array_initializer")]]])),
  ("dimensions_expr", seq [many (ref "_annotation"), "[", ref "expression", "]"]),
  ("parenthesized_expression", seq ["(", ref "expression", ")"]),
  ("class_literal", .weight 17 (seq [ref "_unannotated_type", ".", "class"])),
  ("object_creation_expression", choice [
    ref "_unqualified_object_creation_expression",
    seq [ref "primary_expression", ".", ref "_unqualified_object_creation_expression"]]),
  ("_unqualified_object_creation_expression", precRight 0 (seq [
    "new",
    many (ref "_annotation"),
    field "type_arguments" (optional (ref "type_arguments")),
    field "type" (ref "_simple_type"),
    field "arguments" (ref "argument_list"),
    optional (ref "class_body")])),
  ("field_access", seq [
    field "object" (choice [ref "primary_expression", ref "super"]),
    optional (seq [".", ref "super"]),
    ".",
    field "field" (choice [ref "identifier", ref "_reserved_identifier", ref "this"])]),
  ("template_expression", seq [
    field "template_processor" (ref "primary_expression"),
    ".",
    field "template_argument" (ref "string_literal")]),
  ("array_access", seq [
    field "array" (ref "primary_expression"),
    "[",
    field "index" (ref "expression"),
    "]"]),
  ("method_invocation", seq [
    choice [
      field "name" anyName,
      seq [
        field "object" (choice [ref "primary_expression", ref "super"]),
        ".",
        optional (seq [ref "super", "."]),
        field "type_arguments" (optional (ref "type_arguments")),
        field "name" anyName]],
    field "arguments" (ref "argument_list")]),
  ("argument_list", seq ["(", commas (ref "expression"), ")"]),
  ("method_reference", seq [
    choice [ref "_type", ref "primary_expression", ref "super"],
    "::",
    optional (ref "type_arguments"),
    choice ["new", ref "identifier"]]),
  ("type_arguments", seq ["<", commas (choice [ref "_type", ref "wildcard"]), ">"]),
  ("wildcard", seq [many (ref "_annotation"), "?", optional (ref "_wildcard_bounds")]),
  ("_wildcard_bounds", choice [
    seq ["extends", ref "_type"],
    seq [ref "super", ref "_type"]]),
  ("dimensions", precRight 0 (many1 (seq [many (ref "_annotation"), "[", "]"]))),
  ("switch_expression", seq [
    "switch",
    field "condition" (ref "parenthesized_expression"),
    field "body" (ref "switch_block")]),
  ("switch_block", seq [
    openBrace,
    choice [many (ref "switch_block_statement_group"), many (ref "switch_rule")],
    closeBrace]),
  ("switch_block_statement_group", precLeft 0 (seq [
    many1 (seq [ref "switch_label", ":"]),
    many (ref "statement")])),
  ("switch_rule", seq [
    ref "switch_label",
    "->",
    choice [ref "expression_statement", ref "throw_statement", ref "block"]]),
  ("switch_label", choice [
    seq [
      "case",
      choice [ref "pattern", commas1 (ref "expression")],
      optional (ref "guard")],
    "default"]),
  ("pattern", choice [ref "type_pattern", ref "record_pattern"]),
  ("type_pattern", seq [ref "_unannotated_type", anyName]),
  ("record_pattern", seq [
    choice [ref "identifier", ref "_reserved_identifier", ref "generic_type"],
    ref "record_pattern_body"]),
  ("record_pattern_body", seq [
    "(",
    commas (choice [ref "record_pattern_component", ref "record_pattern"]),
    ")"]),
  ("record_pattern_component", choice [
    ref "underscore_pattern",
    seq [ref "_unannotated_type", anyName]]),
  ("underscore_pattern", .text "_"),
  ("guard", seq ["when", ref "expression"])]

/-! ### Statements -/

/-- Statements. -/
def statements : List (String × Rule) := [
  ("statement", choice [
    ref "declaration",
    ref "expression_statement",
    ref "labeled_statement",
    ref "if_statement",
    ref "while_statement",
    ref "for_statement",
    ref "enhanced_for_statement",
    ref "block",
    ";",
    ref "assert_statement",
    ref "do_statement",
    ref "break_statement",
    ref "continue_statement",
    ref "return_statement",
    ref "yield_statement",
    ref "switch_expression",
    ref "synchronized_statement",
    ref "local_variable_declaration",
    ref "throw_statement",
    ref "try_statement",
    ref "try_with_resources_statement"]),
  ("block", seq [openBrace, many (ref "statement"), closeBrace]),
  ("expression_statement", seq [ref "expression", ";"]),
  ("labeled_statement", seq [ref "identifier", ":", ref "statement"]),
  ("assert_statement", choice [
    seq ["assert", ref "expression", ";"],
    seq ["assert", ref "expression", ":", ref "expression", ";"]]),
  ("do_statement", seq [
    "do",
    field "body" (ref "statement"),
    "while",
    field "condition" (ref "parenthesized_expression"),
    ";"]),
  ("break_statement", seq ["break", optional (ref "identifier"), ";"]),
  ("continue_statement", seq ["continue", optional (ref "identifier"), ";"]),
  ("return_statement", seq ["return", optional (ref "expression"), ";"]),
  ("yield_statement", seq ["yield", ref "expression", ";"]),
  ("synchronized_statement", seq [
    "synchronized",
    ref "parenthesized_expression",
    field "body" (ref "block")]),
  ("throw_statement", seq ["throw", ref "expression", ";"]),
  ("try_statement", seq [
    "try",
    field "body" (ref "block"),
    choice [
      many1 (ref "catch_clause"),
      seq [many (ref "catch_clause"), ref "finally_clause"]]]),
  ("catch_clause", seq ["catch", "(", ref "catch_formal_parameter", ")", field "body" (ref "block")]),
  ("catch_formal_parameter", seq [
    optional (ref "modifiers"),
    ref "catch_type",
    ref "_variable_declarator_id"]),
  ("catch_type", sepBy1 "|" (ref "_unannotated_type")),
  ("finally_clause", seq ["finally", ref "block"]),
  ("try_with_resources_statement", seq [
    "try",
    field "resources" (ref "resource_specification"),
    field "body" (ref "block"),
    many (ref "catch_clause"),
    optional (ref "finally_clause")]),
  ("resource_specification", seq ["(", sepBy1 ";" (ref "resource"), optional ";", ")"]),
  ("resource", choice [
    seq [
      optional (ref "modifiers"),
      field "type" (ref "_unannotated_type"),
      ref "_variable_declarator_id",
      "=",
      field "value" (ref "expression")],
    ref "identifier",
    ref "field_access"]),
  ("if_statement", precRight 0 (seq [
    "if",
    field "condition" (ref "parenthesized_expression"),
    field "consequence" (ref "statement"),
    optional (seq ["else", field "alternative" (ref "statement")])])),
  ("while_statement", seq [
    "while",
    field "condition" (ref "parenthesized_expression"),
    field "body" (ref "statement")]),
  ("for_statement", seq [
    "for",
    "(",
    choice [
      field "init" (ref "local_variable_declaration"),
      seq [commas (field "init" (ref "expression")), ";"]],
    field "condition" (optional (ref "expression")),
    ";",
    commas (field "update" (ref "expression")),
    ")",
    field "body" (ref "statement")]),
  ("enhanced_for_statement", seq [
    "for",
    "(",
    optional (ref "modifiers"),
    field "type" (ref "_unannotated_type"),
    ref "_variable_declarator_id",
    ":",
    field "value" (ref "expression"),
    ")",
    field "body" (ref "statement")]),
  ("_annotation", choice [ref "marker_annotation", ref "annotation"]),
  ("marker_annotation", seq ["@", field "name" (ref "_name")]),
  ("annotation", seq [
    "@",
    field "name" (ref "_name"),
    field "arguments" (ref "annotation_argument_list")]),
  ("annotation_argument_list", seq [
    "(",
    choice [ref "_element_value", commas (ref "element_value_pair")],
    ")"]),
  ("element_value_pair", seq [
    field "key" anyName,
    "=",
    field "value" (ref "_element_value")]),
  ("_element_value", prec declarationLevel (choice [
    ref "expression",
    ref "element_value_array_initializer",
    ref "_annotation"])),
  ("element_value_array_initializer", seq [
    openBrace,
    commas (ref "_element_value"),
    optional ",",
    closeBrace])]

/-! ### Declarations -/

/-- Modules, packages, imports, classes and their bodies. -/
def declarations : List (String × Rule) := [
  ("declaration", prec declarationLevel (choice [
    ref "module_declaration",
    ref "package_declaration",
    ref "import_declaration",
    ref "class_declaration",
    ref "record_declaration",
    ref "interface_declaration",
    ref "annotation_type_declaration",
    ref "enum_declaration"])),
  ("module_declaration", seq [
    many (ref "_annotation"),
    optional "open",
    "module",
    field "name" (ref "_name"),
    field "body" (ref "module_body")]),
  ("module_body", seq [openBrace, many (ref "module_directive"), closeBrace]),
  ("module_directive", choice [
    ref "requires_module_directive",
    ref "exports_module_directive",
    ref "opens_module_directive",
    ref "uses_module_directive",
    ref "provides_module_directive"]),
  ("requires_module_directive", seq [
    "requires",
    many (field "modifiers" (ref "requires_modifier")),
    field "module" (ref "_name"),
    ";"]),
  ("requires_modifier", choice ["transitive", "static"]),
  ("exports_module_directive", seq [
    "exports",
    field "package" (ref "_name"),
    optional (seq [
      "to",
      field "modules" (ref "_name"),
      many (seq [",", field "modules" (ref "_name")])]),
    ";"]),
  ("opens_module_directive", seq [
    "opens",
    field "package" (ref "_name"),
    optional (seq [
      "to",
      field "modules" (ref "_name"),
      many (seq [",", field "modules" (ref "_name")])]),
    ";"]),
  ("uses_module_directive", seq ["uses", field "type" (ref "_name"), ";"]),
  ("provides_module_directive", seq [
    "provides",
    field "provided" (ref "_name"),
    "with",
    ref "_name",
    many (seq [",", field "provider" (ref "_name")]),
    ";"]),
  ("package_declaration", seq [many (ref "_annotation"), "package", ref "_name", ";"]),
  ("import_declaration", seq [
    "import",
    optional "static",
    ref "_name",
    optional (seq [".", ref "asterisk"]),
    ";"]),
  ("asterisk", .text "*"),
  ("enum_declaration", seq [
    optional (ref "modifiers"),
    "enum",
    field "name" (ref "identifier"),
    field "interfaces" (optional (ref "super_interfaces")),
    field "body" (ref "enum_body")]),
  ("enum_body", seq [
    openBrace,
    commas (ref "enum_constant"),
    optional ",",
    optional (ref "enum_body_declarations"),
    closeBrace]),
  ("enum_body_declarations", seq [";", many (ref "_class_body_declaration")]),
  ("enum_constant", seq [
    optional (ref "modifiers"),
    field "name" (ref "identifier"),
    field "arguments" (optional (ref "argument_list")),
    field "body" (optional (ref "class_body"))]),
  ("class_declaration", seq [
    optional (ref "modifiers"),
    "class",
    field "name" (ref "identifier"),
    optional (field "type_parameters" (ref "type_parameters")),
    optional (field "superclass" (ref "superclass")),
    optional (field "interfaces" (ref "super_interfaces")),
    optional (field "permits" (ref "permits")),
    field "body" (ref "class_body")]),
  ("modifiers", many1 (choice [
    ref "_annotation",
    "public",
    "protected",
    "private",
    "abstract",
    "static",
    "final",
    "strictfp",
    "default",
    "synchronized",
    "native",
    "transient",
    "volatile",
    "sealed",
    "non-sealed"])),
  ("type_parameters", seq ["<", commas1 (ref "type_parameter"), ">"]),
  ("type_parameter", seq [many (ref "_annotation"), typeName, optional (ref "type_bound")]),
  ("type_bound", seq ["extends", ref "_type", many (seq ["&", ref "_type"])]),
  ("superclass", seq ["extends", ref "_type"]),
  ("super_interfaces", seq ["implements", ref "type_list"]),
  ("type_list", seq [ref "_type", many (seq [",", ref "_type"])]),
  ("permits", seq ["permits", ref "type_list"]),
  ("class_body", seq [openBrace, many (ref "_class_body_declaration"), closeBrace]),
  ("_class_body_declaration", choice [
    ref "field_declaration",
    ref "record_declaration",
    ref "method_declaration",
    ref "compact_constructor_declaration",
    ref "class_declaration",
    ref "interface_declaration",
    ref "annotation_type_declaration",
    ref "enum_declaration",
    ref "block",
    ref "static_initializer",
    ref "constructor_declaration",
    ";"]),
  ("static_initializer", seq ["static", ref "block"]),
  ("constructor_declaration", seq [
    optional (ref "modifiers"),
    ref "_constructor_declarator",
    optional (ref "throws"),
    field "body" (ref "constructor_body")]),
  ("_constructor_declarator", seq [
    field "type_parameters" (optional (ref "type_parameters")),
    field "name" (ref "identifier"),
    field "parameters" (ref "formal_parameters")]),
  ("constructor_body", seq [
    openBrace,
    optional (ref "explicit_constructor_invocation"),
    many (ref "statement"),
    closeBrace]),
  ("explicit_constructor_invocation", seq [
    choice [
      seq [
        field "type_arguments" (optional (ref "type_arguments")),
        field "constructor" (choice [ref "this", ref "super"])],
      seq [
        field "object" (ref "primary_expression"),
        ".",
        field "type_arguments" (optional (ref "type_arguments")),
        field "constructor" (ref "super")]],
    field "arguments" (ref "argument_list"),
    ";"]),
  ("_name", choice [ref "identifier", ref "_reserved_identifier", ref "scoped_identifier"]),
  ("scoped_identifier", seq [
    field "scope" (ref "_name"),
    ".",
    field "name" (ref "identifier")]),
  ("field_declaration", seq [
    optional (ref "modifiers"),
    field "type" (ref "_unannotated_type"),
    ref "_variable_declarator_list",
    ";"]),
  ("record_declaration", seq [
    optional (ref "modifiers"),
    "record",
    field "name" (ref "identifier"),
    optional (field "type_parameters" (ref "type_parameters")),
    field "parameters" (ref "formal_parameters"),
    optional (field "interfaces" (ref "super_interfaces")),
    field "body" (ref "class_body")])]

/-- Interfaces, variables, types and methods. -/
def members : List (String × Rule) := [
  ("annotation_type_declaration", seq [
    optional (ref "modifiers"),
    "@interface",
    field "name" (ref "identifier"),
    field "body" (ref "annotation_type_body")]),
  ("annotation_type_body", seq [
    openBrace,
    many (choice [
      ref "annotation_type_element_declaration",
      ref "constant_declaration",
      ref "class_declaration",
      ref "interface_declaration",
      ref "enum_declaration",
      ref "annotation_type_declaration",
      ";"]),
    closeBrace]),
  ("annotation_type_element_declaration", seq [
    optional (ref "modifiers"),
    field "type" (ref "_unannotated_type"),
    field "name" anyName,
    "(",
    ")",
    field "dimensions" (optional (ref "dimensions")),
    optional (ref "_default_value"),
    ";"]),
  ("_default_value", seq ["default", field "value" (ref "_element_value")]),
  ("interface_declaration", seq [
    optional (ref "modifiers"),
    "interface",
    field "name" (ref "identifier"),
    field "type_parameters" (optional (ref "type_parameters")),
    optional (ref "extends_interfaces"),
    optional (field "permits" (ref "permits")),
    field "body" (ref "interface_body")]),
  ("extends_interfaces", seq ["extends", ref "type_list"]),
  ("interface_body", seq [
    openBrace,
    many (choice [
      ref "constant_declaration",
      ref "enum_declaration",
      ref "method_declaration",
      ref "class_declaration",
      ref "interface_declaration",
      ref "record_declaration",
      ref "annotation_type_declaration",
      ";"]),
    closeBrace]),
  ("constant_declaration", seq [
    optional (ref "modifiers"),
    field "type" (ref "_unannotated_type"),
    ref "_variable_declarator_list",
    ";"]),
  ("_variable_declarator_list", commas1 (field "declarator" (ref "variable_declarator"))),
  ("variable_declarator", seq [
    ref "_variable_declarator_id",
    optional (seq ["=", field "value" (ref "_variable_initializer")])]),
  ("_variable_declarator_id", seq [
    field "name" (choice [ref "identifier", ref "_reserved_identifier", ref "underscore_pattern"]),
    field "dimensions" (optional (ref "dimensions"))]),
  ("_variable_initializer", choice [ref "expression", ref "array_initializer"]),
  ("array_initializer", seq [
    openBrace,
    commas (ref "_variable_initializer"),
    optional ",",
    closeBrace]),
  ("_type", choice [ref "_unannotated_type", ref "annotated_type"]),
  ("_unannotated_type", choice [ref "_simple_type", ref "array_type"]),
  ("_simple_type", choice [
    ref "void_type",
    ref "integral_type",
    ref "floating_point_type",
    ref "boolean_type",
    typeName,
    reservedTypeName,
    ref "scoped_type_identifier",
    ref "generic_type"]),
  ("annotated_type", seq [many1 (ref "_annotation"), ref "_unannotated_type"]),
  ("scoped_type_identifier", seq [
    choice [typeName, reservedTypeName, ref "scoped_type_identifier", ref "generic_type"],
    ".",
    many (ref "_annotation"),
    choice [typeName, reservedTypeName]]),
  ("generic_type", .weight 10 (seq [
    choice [typeName, reservedTypeName, ref "scoped_type_identifier"],
    ref "type_arguments"])),
  ("array_type", seq [
    field "element" (ref "_unannotated_type"),
    field "dimensions" (ref "dimensions")]),
  ("integral_type", choice ["byte", "short", "int", "long", "char"]),
  ("floating_point_type", choice ["float", "double"]),
  ("boolean_type", .text "boolean"),
  ("void_type", .text "void"),
  ("_method_header", seq [
    optional (seq [field "type_parameters" (ref "type_parameters"), many (ref "_annotation")]),
    field "type" (ref "_unannotated_type"),
    ref "_method_declarator",
    optional (ref "throws")]),
  ("_method_declarator", seq [
    field "name" anyName,
    field "parameters" (ref "formal_parameters"),
    field "dimensions" (optional (ref "dimensions"))]),
  ("formal_parameters", seq [
    "(",
    choice [
      ref "receiver_parameter",
      seq [
        optional (seq [ref "receiver_parameter", ","]),
        commas (choice [ref "formal_parameter", ref "spread_parameter"])]],
    ")"]),
  ("formal_parameter", seq [
    optional (ref "modifiers"),
    field "type" (ref "_unannotated_type"),
    ref "_variable_declarator_id"]),
  ("receiver_parameter", seq [
    many (ref "_annotation"),
    ref "_unannotated_type",
    many (seq [ref "identifier", "."]),
    ref "this"]),
  ("spread_parameter", seq [
    optional (ref "modifiers"),
    ref "_unannotated_type",
    "...",
    ref "variable_declarator"]),
  ("throws", seq ["throws", commas1 (ref "_type")]),
  ("local_variable_declaration", seq [
    optional (ref "modifiers"),
    field "type" (ref "_unannotated_type"),
    ref "_variable_declarator_list",
    ";"]),
  ("method_declaration", seq [
    optional (ref "modifiers"),
    ref "_method_header",
    choice [field "body" (ref "block"), ";"]]),
  ("compact_constructor_declaration", seq [
    optional (ref "modifiers"),
    field "name" (ref "identifier"),
    field "body" (ref "block")]),
  ("_reserved_identifier", choice [
    prec (-3) (shownAs "identifier" (choice ["open", "module", "record", "with", "sealed"])),
    shownAs "identifier" (.text "yield")]),
  ("this", .text "this"),
  ("super", .text "super"),
  ("identifier", shape r"[\p{XID_Start}_$][\p{XID_Continue}\u00A2_$]*"),
  ("line_comment", .token (prec 0 (seq ["//", shape r"[^\n]*"]))),
  ("block_comment", .token (prec 0 (seq ["/*", shape r"[^*]*\*+([^/*][^*]*\*+)*", "/"])))]

/-- The grammar of Java. -/
def grammar : Spec where
  rules := literals ++ expressions ++ statements ++ declarations ++ members
  extras := [ref "line_comment", ref "block_comment", shape r"\s"]
  externals := []
  inlined := ["_name", "_simple_type", "_class_body_declaration", "_variable_initializer"]
  categories := [
    "expression", "declaration", "statement", "primary_expression", "_literal", "_type",
    "_simple_type", "_unannotated_type", "module_directive"]
  word := some "identifier"
  rankings := []

end CodeAtlas.Language.Java
