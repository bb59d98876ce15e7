import LessonService.Grammar.Rule

namespace LessonService.Tsx

open LessonService.Grammar LessonService.Grammar.Rule

/-- A token by its text. -/
abbrev tok (text : String) : Rule := .token text

def anyOf (rules : List Rule) : Rule := .choice rules

def words (texts : List String) : Rule := .choice (texts.map .token)

def moduleRules : List (String × Rule) := [
  ("program", .seq [optional "hash_bang_line", many "statement"]),
  ("hash_bang_line", .lexeme),
  ("export_statement", anyOf [
    .seq [tok "export",
      anyOf [
        .seq [tok "*", "_from_clause"],
        .seq ["namespace_export", "_from_clause"],
        .seq ["export_clause", "_from_clause"],
        "export_clause"],
      "_semicolon"],
    .seq [many "decorator", tok "export",
      anyOf [
        "declaration",
        .seq [tok "default", anyOf ["declaration", .seq ["expression", "_semicolon"]]]]],
    .seq [tok "export", tok "type", "export_clause", optional "_from_clause", "_semicolon"],
    .seq [tok "export", tok "import", "import_alias"],
    .seq [tok "export", tok "=", "expression", "_semicolon"],
    .seq [tok "export", tok "as", tok "namespace", "identifier", "_semicolon"]]),
  ("namespace_export", .seq [tok "*", tok "as", "_module_export_name"]),
  ("export_clause", .seq [tok "\x7b", commaSep "export_specifier", optional (tok ","), tok "\x7d"]),
  ("export_specifier", .seq [optional (words ["type", "typeof"]),
    .seq [.field "name" "_module_export_name", optional (.seq [tok "as", "_module_export_name"])]]),
  ("_module_export_name", anyOf ["identifier", "string", tok "default"]),
  ("declaration", anyOf [
    "function_declaration", "generator_function_declaration", "class_declaration",
    "lexical_declaration", "variable_declaration", "function_signature",
    "abstract_class_declaration", "module", strong "declare" "internal_module",
    "type_alias_declaration", "enum_declaration", "interface_declaration", "import_alias",
    "ambient_declaration"]),
  ("import", tok "import"),
  ("import_statement", .seq [tok "import", optional (words ["type", "typeof"]),
    anyOf [.seq ["import_clause", "_from_clause"], "import_require_clause", "string"],
    optional "import_attribute", "_semicolon"]),
  ("import_clause", anyOf [
    "namespace_import",
    "named_imports",
    .seq ["_import_identifier",
      optional (.seq [tok ",", anyOf ["namespace_import", "named_imports"]])]]),
  ("_from_clause", .seq [tok "from", "string"]),
  ("namespace_import", .seq [tok "*", tok "as", "identifier"]),
  ("named_imports", .seq [tok "\x7b", commaSep "import_specifier", optional (tok ","), tok "\x7d"]),
  ("import_specifier", .seq [optional (words ["type", "typeof"]),
    anyOf [
      .field "name" "_import_identifier",
      .seq [.field "name" (anyOf ["_module_export_name", shownAs "identifier" (tok "type")]),
        tok "as", "_import_identifier"]]]),
  ("import_attribute", .seq [words ["with", "assert"], "object"])]

def statementRules : List (String × Rule) := [
  ("statement", anyOf [
    "export_statement", "import_statement", "debugger_statement", "expression_statement",
    "declaration", "statement_block", "if_statement", "switch_statement", "for_statement",
    "for_in_statement", "while_statement", "do_statement", "try_statement", "with_statement",
    "break_statement", "continue_statement", "return_statement", "throw_statement",
    "empty_statement", "labeled_statement"]),
  ("expression_statement", .seq ["_expressions", "_semicolon"]),
  ("variable_declaration", .seq [tok "var", commaSep1 "variable_declarator", "_semicolon"]),
  ("lexical_declaration", .seq [words ["let", "const"], commaSep1 "variable_declarator", "_semicolon"]),
  ("variable_declarator", anyOf [
    .seq [.field "name" (anyOf ["identifier", "_destructuring_pattern"]),
      optional "type_annotation", optional "_initializer"],
    strong "declare" (.seq [.field "name" "identifier", tok "!", "type_annotation"])]),
  ("statement_block", right (.seq [tok "\x7b", many "statement", tok "\x7d", optional "_automatic_semicolon"])),
  ("else_clause", .seq [tok "else", "statement"]),
  ("if_statement", right (.seq [tok "if", "parenthesized_expression", "statement", optional "else_clause"])),
  ("switch_statement", .seq [tok "switch", .field "value" "parenthesized_expression", .field "body" "switch_body"]),
  ("for_statement", .seq [tok "for", tok "(",
    anyOf [
      anyOf ["lexical_declaration", "variable_declaration"],
      .seq ["_expressions", tok ";"],
      "empty_statement"],
    anyOf [.seq ["_expressions", tok ";"], "empty_statement"],
    optional "_expressions", tok ")", .field "body" "statement"]),
  ("for_in_statement", .seq [tok "for", optional (tok "await"), "_for_header", .field "body" "statement"]),
  ("_for_header", .seq [tok "(",
    anyOf [
      anyOf ["_lhs_expression", "parenthesized_expression"],
      .seq [tok "var", anyOf ["identifier", "_destructuring_pattern"], optional "_initializer"],
      .seq [words ["let", "const"], anyOf ["identifier", "_destructuring_pattern"],
        optional "_automatic_semicolon"]],
    words ["in", "of"], "_expressions", tok ")"]),
  ("while_statement", .seq [tok "while", "parenthesized_expression", .field "body" "statement"]),
  ("do_statement", right (.seq [tok "do", .field "body" "statement", tok "while",
    "parenthesized_expression", optional "_semicolon"])),
  ("try_statement", .seq [tok "try", .field "body" "statement_block", optional "catch_clause",
    optional "finally_clause"]),
  ("with_statement", .seq [tok "with", "parenthesized_expression", .field "body" "statement"]),
  ("break_statement", .seq [tok "break", optional (shownAs "statement_identifier" "identifier"), "_semicolon"]),
  ("continue_statement", .seq [tok "continue", optional (shownAs "statement_identifier" "identifier"), "_semicolon"]),
  ("debugger_statement", .seq [tok "debugger", "_semicolon"]),
  ("return_statement", .seq [tok "return", optional "_expressions", "_semicolon"]),
  ("throw_statement", .seq [tok "throw", "_expressions", "_semicolon"]),
  ("empty_statement", tok ";"),
  ("labeled_statement", .weight (-1) (.seq [
    shownAs "statement_identifier" (anyOf ["identifier", "_reserved_identifier"]),
    tok ":", .field "body" "statement"])),
  ("switch_body", .seq [tok "\x7b", many (anyOf ["switch_case", "switch_default"]), tok "\x7d"]),
  ("switch_case", .seq [tok "case", .field "value" "_expressions", tok ":", .field "body" (many "statement")]),
  ("switch_default", .seq [tok "default", tok ":", .field "body" (many "statement")]),
  ("catch_clause", .seq [tok "catch",
    optional (.seq [tok "(", anyOf ["identifier", "_destructuring_pattern"], optional "type_annotation", tok ")"]),
    .field "body" "statement_block"]),
  ("finally_clause", .seq [tok "finally", .field "body" "statement_block"]),
  ("parenthesized_expression", .seq [tok "(",
    anyOf [.seq ["expression", optional "type_annotation"], "sequence_expression"],
    tok ")"])]

end LessonService.Tsx
