import LessonService.Tsx.Grammar.Statements

namespace LessonService.Tsx

open LessonService.Grammar LessonService.Grammar.Rule

def operandRules : List (String × Rule) := [
  ("_expressions", anyOf ["expression", "sequence_expression"]),
  ("expression", anyOf [
    "as_expression", "satisfies_expression", "instantiation_expression", "internal_module",
    "primary_expression", "_jsx_element", "assignment_expression",
    "augmented_assignment_expression", "await_expression", "unary_expression",
    "binary_expression", "ternary_expression", "update_expression", "new_expression",
    "yield_expression"]),
  ("primary_expression", anyOf [
    "subscript_expression", "member_expression", "parenthesized_expression", "_identifier",
    shownAs "identifier" "_reserved_identifier", "this", "super", "number", "string",
    "template_string", "regex", "true", "false", "null", "object", "array",
    "function_expression", "arrow_function", "generator_function", "class", "meta_property",
    "call_expression", "non_null_expression"]),
  ("yield_expression", right (.seq [tok "yield",
    anyOf [.seq [tok "*", "expression"], optional "expression"]])),
  ("object", strong "object" (.seq [tok "\x7b",
    commaSep (optional (anyOf [
      "pair", "spread_element", "method_definition",
      shownAs "shorthand_property_identifier" (anyOf ["identifier", "_reserved_identifier"])])),
    tok "\x7d"])),
  ("object_pattern", strong "object" (.seq [tok "\x7b",
    commaSep (optional (anyOf [
      "pair_pattern", "rest_pattern", "object_assignment_pattern",
      shownAs "shorthand_property_identifier_pattern" (anyOf ["identifier", "_reserved_identifier"])])),
    tok "\x7d"])),
  ("assignment_pattern", .seq ["pattern", tok "=", "expression"]),
  ("object_assignment_pattern", .seq [
    anyOf [
      shownAs "shorthand_property_identifier_pattern" (anyOf ["_reserved_identifier", "identifier"]),
      "_destructuring_pattern"],
    tok "=", "expression"]),
  ("array", .seq [tok "[", commaSep (optional (anyOf ["expression", "spread_element"])), tok "]"]),
  ("array_pattern", .seq [tok "[", commaSep (optional (anyOf ["pattern", "assignment_pattern"])), tok "]"])]

def markupRules : List (String × Rule) := [
  ("_jsx_element", anyOf ["jsx_element", "jsx_self_closing_element"]),
  ("jsx_element", .seq [.field "open_tag" "jsx_opening_element", many "_jsx_child",
    .field "close_tag" "jsx_closing_element"]),
  ("html_character_reference", .lexeme),
  ("jsx_expression", .seq [tok "\x7b",
    optional (anyOf ["expression", "sequence_expression", "spread_element"]), tok "\x7d"]),
  ("_jsx_child", anyOf ["jsx_text", "html_character_reference", "_jsx_element", "jsx_expression"]),
  ("jsx_opening_element", .weight (-1) (.seq ["_jsx_start_opening_element", tok ">"])),
  ("jsx_identifier", .lexeme),
  ("_jsx_identifier", anyOf [shownAs "identifier" "jsx_identifier", "identifier"]),
  ("nested_identifier", strong "member" (.seq [
    anyOf ["identifier", shownAs "member_expression" "nested_identifier"],
    tok ".", shownAs "property_identifier" "identifier"])),
  ("jsx_namespace_name", .seq ["_jsx_identifier", tok ":", "_jsx_identifier"]),
  ("_jsx_element_name", anyOf ["_jsx_identifier", shownAs "member_expression" "nested_identifier",
    "jsx_namespace_name"]),
  ("jsx_closing_element", .seq [tok "</", optional (.field "name" "_jsx_element_name"), tok ">"]),
  ("jsx_self_closing_element", .weight (-1) (.seq ["_jsx_start_opening_element", tok "/>"])),
  ("_jsx_attribute", anyOf ["jsx_attribute", "jsx_expression"]),
  ("_jsx_attribute_name", anyOf [shownAs "property_identifier" "_jsx_identifier", "jsx_namespace_name"]),
  ("jsx_attribute", .seq ["_jsx_attribute_name", optional (.seq [tok "=", "_jsx_attribute_value"])]),
  ("_jsx_string", anyOf [
    .seq [tok "\"",
      many (anyOf [shownAs "string_fragment" "unescaped_double_jsx_string_fragment", "html_character_reference"]),
      tok "\""],
    .seq [tok "'",
      many (anyOf [shownAs "string_fragment" "unescaped_single_jsx_string_fragment", "html_character_reference"]),
      tok "'"]]),
  ("unescaped_double_jsx_string_fragment", .lexeme),
  ("unescaped_single_jsx_string_fragment", .lexeme),
  ("_jsx_attribute_value", anyOf [shownAs "string" "_jsx_string", "jsx_expression", "_jsx_element"])]

def functionRules : List (String × Rule) := [
  ("class", strong "literal" (.seq [many "decorator", tok "class",
    .field "name" (optional "_type_identifier"), optional "type_parameters",
    optional "class_heritage", .field "body" "class_body"])),
  ("class_declaration", strongLeft "declare" (.seq [many "decorator", tok "class",
    .field "name" "_type_identifier", optional "type_parameters",
    optional "class_heritage", .field "body" "class_body", optional "_automatic_semicolon"])),
  ("class_heritage", anyOf [.seq ["extends_clause", optional "implements_clause"], "implements_clause"]),
  ("function_expression", strong "literal" (.seq [optional (tok "async"), tok "function",
    .field "name" (optional "identifier"), "_call_signature", .field "body" "statement_block"])),
  ("function_declaration", strongRight "declare" (.seq [optional (tok "async"), tok "function",
    .field "name" "identifier", "_call_signature", .field "body" "statement_block",
    optional "_automatic_semicolon"])),
  ("generator_function", strong "literal" (.seq [optional (tok "async"), tok "function", tok "*",
    .field "name" (optional "identifier"), "_call_signature", .field "body" "statement_block"])),
  ("generator_function_declaration", strongRight "declare" (.seq [optional (tok "async"), tok "function",
    tok "*", .field "name" "identifier", "_call_signature", .field "body" "statement_block",
    optional "_automatic_semicolon"])),
  ("arrow_function", .seq [optional (tok "async"),
    anyOf [anyOf [shownAs "identifier" "_reserved_identifier", "identifier"], "_call_signature"],
    tok "=>", .field "body" (anyOf ["expression", "statement_block"])]),
  ("_call_signature", .seq [optional "type_parameters", "formal_parameters",
    optional (anyOf ["type_annotation", "asserts_annotation", "type_predicate_annotation"])]),
  ("_formal_parameter", anyOf ["required_parameter", "optional_parameter"]),
  ("optional_chain", tok "?."),
  ("call_expression", anyOf [
    strong "call" (.seq [.field "function" (anyOf ["expression", "import"]), optional "type_arguments", "arguments"]),
    strong "template_call" (.seq [.field "function" (anyOf ["primary_expression", "new_expression"]),
      "template_string"]),
    strong "member" (.seq [.field "function" "primary_expression", tok "?.", optional "type_arguments", "arguments"])]),
  ("new_expression", strongRight "new" (.seq [tok "new", "primary_expression", optional "type_arguments",
    optional "arguments"])),
  ("await_expression", strong "unary_void" (.seq [tok "await", "expression"])),
  ("member_expression", strong "member" (.seq [
    anyOf ["expression", "primary_expression", "import"],
    anyOf [tok ".", "optional_chain"],
    anyOf ["private_property_identifier", shownAs "property_identifier" "identifier"]])),
  ("subscript_expression", strongRight "member" (.seq [
    anyOf ["expression", "primary_expression"], optional "optional_chain",
    tok "[", "_expressions", tok "]"])),
  ("_lhs_expression", anyOf ["member_expression", "subscript_expression", "_identifier",
    shownAs "identifier" "_reserved_identifier", "_destructuring_pattern", "non_null_expression"]),
  ("assignment_expression", strongRight "assign" (.seq [optional (tok "using"),
    anyOf ["parenthesized_expression", "_lhs_expression"], tok "=", "expression"])),
  ("_augmented_assignment_lhs", anyOf ["member_expression", "subscript_expression",
    shownAs "identifier" "_reserved_identifier", "identifier", "parenthesized_expression",
    "non_null_expression"]),
  ("augmented_assignment_expression", strongRight "assign" (.seq ["_augmented_assignment_lhs",
    words ["+=", "-=", "*=", "/=", "%=", "^=", "&=", "|=", ">>=", ">>>=", "<<=", "**=", "&&=", "||=", "??="],
    "expression"])),
  ("_initializer", .seq [tok "=", .field "value" "expression"]),
  ("_destructuring_pattern", anyOf ["object_pattern", "array_pattern"]),
  ("spread_element", .seq [tok "...", "expression"]),
  ("ternary_expression", strongRight "ternary" (.seq ["expression", shownAsToken "?" "_ternary_qmark",
    "expression", tok ":", "expression"])),
  ("binary_expression", anyOf (
    [("&&", "logical_and"), ("||", "logical_or"), (">>", "binary_shift"), (">>>", "binary_shift"),
     ("<<", "binary_shift"), ("&", "bitwise_and"), ("^", "bitwise_xor"), ("|", "bitwise_or"),
     ("+", "binary_plus"), ("-", "binary_plus"), ("*", "binary_times"), ("/", "binary_times"),
     ("%", "binary_times"), ("**", "binary_exp"), ("<", "binary_relation"), ("<=", "binary_relation"),
     ("==", "binary_equality"), ("===", "binary_equality"), ("!=", "binary_equality"),
     ("!==", "binary_equality"), (">=", "binary_relation"), (">", "binary_relation"),
     ("??", "ternary"), ("instanceof", "binary_relation"), ("in", "binary_relation")].map
    fun (operator, strength) =>
      let side : Associativity := if operator = "**" then .right else .left
      let operand : Rule :=
        if operator = "in" then anyOf ["expression", "private_property_identifier"] else "expression"
      .prec (.named strength) (some side) (.seq [operand, tok operator, "expression"]))),
  ("unary_expression", strongLeft "unary_void" (.seq [
    words ["!", "~", "-", "+", "typeof", "void", "delete"], "expression"])),
  ("update_expression", left (anyOf [
    .seq ["expression", words ["++", "--"]],
    .seq [words ["++", "--"], "expression"]])),
  ("sequence_expression", right (commaSep1 "expression"))]

def literalRules : List (String × Rule) := [
  ("string", anyOf [
    .seq [tok "\"",
      many (anyOf [shownAs "string_fragment" "unescaped_double_string_fragment", "escape_sequence"]),
      tok "\""],
    .seq [tok "'",
      many (anyOf [shownAs "string_fragment" "unescaped_single_string_fragment", "escape_sequence"]),
      tok "'"]]),
  ("unescaped_double_string_fragment", .lexeme),
  ("unescaped_single_string_fragment", .lexeme),
  ("escape_sequence", .lexeme),
  ("comment", .lexeme),
  ("template_string", .seq [tok "`",
    many (anyOf [shownAs "string_fragment" "_template_chars", "escape_sequence", "template_substitution"]),
    tok "`"]),
  ("template_substitution", .seq [tok "$\x7b", "_expressions", tok "\x7d"]),
  ("regex", .seq [tok "/", "regex_pattern", .adjacent "/", optional "regex_flags"]),
  ("regex_pattern", .lexeme),
  ("regex_flags", .lexeme),
  ("number", .lexeme),
  ("_identifier", anyOf ["undefined", "identifier"]),
  ("identifier", .lexeme),
  ("private_property_identifier", .lexeme),
  ("meta_property", anyOf [.seq [tok "new", tok ".", tok "target"], .seq [tok "import", tok ".", tok "meta"]]),
  ("this", tok "this"),
  ("super", tok "super"),
  ("true", tok "true"),
  ("false", tok "false"),
  ("null", tok "null"),
  ("undefined", tok "undefined"),
  ("arguments", .seq [tok "(", commaSep (optional (anyOf ["expression", "spread_element"])), tok ")"]),
  ("decorator", .seq [tok "@", anyOf [
    "identifier",
    shownAs "member_expression" "decorator_member_expression",
    shownAs "call_expression" "decorator_call_expression",
    shownAs "parenthesized_expression" "decorator_parenthesized_expression"]]),
  ("decorator_member_expression", strong "member" (.seq [
    anyOf ["identifier", shownAs "member_expression" "decorator_member_expression"],
    tok ".", shownAs "property_identifier" "identifier"])),
  ("decorator_call_expression", strong "call" (.seq [
    .field "function" (anyOf ["identifier", shownAs "member_expression" "decorator_member_expression"]),
    optional "type_arguments", "arguments"]))]

def memberRules : List (String × Rule) := [
  ("class_body", .seq [tok "\x7b",
    many (anyOf [
      .seq [many "decorator", "method_definition", optional "_semicolon"],
      .seq ["method_signature", anyOf ["_function_signature_automatic_semicolon", tok ","]],
      "class_static_block",
      .seq [anyOf ["abstract_method_signature", "index_signature", "method_signature", "public_field_definition"],
        anyOf ["_semicolon", tok ","]],
      tok ";"]),
    tok "\x7d"]),
  ("formal_parameters", .seq [tok "(",
    optional (.seq [commaSep1 "_formal_parameter", optional (tok ",")]), tok ")"]),
  ("class_static_block", .seq [tok "static", .field "body" "statement_block"]),
  ("pattern", .weight (-1) (anyOf ["_lhs_expression", "rest_pattern"])),
  ("rest_pattern", right (.seq [tok "...", "_lhs_expression"])),
  ("method_definition", left (.seq [optional "accessibility_modifier", optional (tok "static"),
    optional "override_modifier", optional (tok "readonly"), optional (tok "async"),
    optional (words ["get", "set", "*"]), .field "name" "_property_name", optional (tok "?"),
    "_call_signature", .field "body" "statement_block"])),
  ("pair", .seq ["_property_name", tok ":", .field "value" "expression"]),
  ("pair_pattern", .seq ["_property_name", tok ":",
    .field "value" (anyOf ["pattern", "assignment_pattern"])]),
  ("_property_name", anyOf [
    shownAs "property_identifier" (anyOf ["identifier", "_reserved_identifier"]),
    "private_property_identifier", "string", "number", "computed_property_name"]),
  ("computed_property_name", .seq [tok "[", "expression", tok "]"]),
  ("_reserved_identifier", words ["declare", "namespace", "type", "public", "private", "protected",
    "override", "readonly", "module", "any", "number", "boolean", "string", "symbol", "export",
    "object", "new", "get", "set", "async", "static", "let"]),
  ("_semicolon", anyOf ["_automatic_semicolon", tok ";"])]

end LessonService.Tsx
