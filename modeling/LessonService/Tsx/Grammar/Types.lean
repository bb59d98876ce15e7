import LessonService.Tsx.Grammar.Expressions

namespace LessonService.Tsx

open LessonService.Grammar LessonService.Grammar.Rule

def typedDeclarationRules : List (String × Rule) := [
  ("public_field_definition", .seq [many "decorator",
    optional (anyOf [
      .seq [tok "declare", optional "accessibility_modifier"],
      .seq ["accessibility_modifier", optional (tok "declare")]]),
    anyOf [
      .seq [optional (tok "static"), optional "override_modifier", optional (tok "readonly")],
      .seq [optional (tok "abstract"), optional (tok "readonly")],
      .seq [optional (tok "readonly"), optional (tok "abstract")],
      optional (tok "accessor")],
    .field "name" "_property_name", optional (words ["?", "!"]),
    optional "type_annotation", optional "_initializer"]),
  ("_jsx_start_opening_element", .seq [tok "<",
    optional (.seq [
      anyOf [
        .field "name" (anyOf ["_jsx_identifier", "jsx_namespace_name"]),
        .seq [.field "name" (anyOf ["identifier", shownAs "member_expression" "nested_identifier"]),
          optional "type_arguments"]],
      many "_jsx_attribute"])]),
  ("_import_identifier", anyOf ["identifier", shownAs "identifier" (tok "type")]),
  ("non_null_expression", strongLeft "unary" (.seq ["expression", tok "!"])),
  ("method_signature", .seq [optional "accessibility_modifier", optional (tok "static"),
    optional "override_modifier", optional (tok "readonly"), optional (tok "async"),
    optional (words ["get", "set", "*"]), .field "name" "_property_name", optional (tok "?"),
    "_call_signature"]),
  ("abstract_method_signature", .seq [optional "accessibility_modifier", tok "abstract",
    optional "override_modifier", optional (words ["get", "set", "*"]),
    .field "name" "_property_name", optional (tok "?"), "_call_signature"]),
  ("function_signature", .seq [optional (tok "async"), tok "function", .field "name" "identifier",
    "_call_signature", anyOf ["_semicolon", "_function_signature_automatic_semicolon"]]),
  ("decorator_parenthesized_expression", .seq [tok "(", anyOf [
    "identifier",
    shownAs "member_expression" "decorator_member_expression",
    shownAs "call_expression" "decorator_call_expression"], tok ")"]),
  ("as_expression", strongLeft "binary" (.seq ["expression", tok "as", anyOf [tok "const", "type"]])),
  ("satisfies_expression", strongLeft "binary" (.seq ["expression", tok "satisfies", "type"])),
  ("instantiation_expression", strong "instantiation" (.seq ["expression", "type_arguments"])),
  ("import_require_clause", .seq ["identifier", tok "=", tok "require", tok "(", "string", tok ")"]),
  ("extends_clause", .seq [tok "extends", commaSep1 "_extends_clause_single"]),
  ("_extends_clause_single", strong "extends" (.seq [.field "value" "expression", optional "type_arguments"])),
  ("implements_clause", .seq [tok "implements", commaSep1 "type"]),
  ("ambient_declaration", .seq [tok "declare", anyOf [
    "declaration",
    .seq [tok "global", "statement_block"],
    .seq [tok "module", tok ".", shownAs "property_identifier" "identifier", tok ":", "type", "_semicolon"]]]),
  ("abstract_class_declaration", strong "declare" (.seq [many "decorator", tok "abstract", tok "class",
    .field "name" "_type_identifier", optional "type_parameters", optional "class_heritage",
    .field "body" "class_body"])),
  ("module", .seq [tok "module", "_module"]),
  ("internal_module", .seq [tok "namespace", "_module"]),
  ("_module", right (.seq [.field "name" (anyOf ["string", "identifier", "nested_identifier"]),
    .field "body" (optional "statement_block")])),
  ("import_alias", .seq [tok "import", "identifier", tok "=", anyOf ["identifier", "nested_identifier"], "_semicolon"]),
  ("nested_type_identifier", strong "member" (.seq [anyOf ["identifier", "nested_identifier"], tok ".",
    .field "name" "_type_identifier"])),
  ("interface_declaration", .seq [tok "interface", .field "name" "_type_identifier",
    optional "type_parameters", optional "extends_type_clause",
    .field "body" (shownAs "interface_body" "object_type")]),
  ("extends_type_clause", .seq [tok "extends",
    commaSep1 (anyOf ["_type_identifier", "nested_type_identifier", "generic_type"])]),
  ("enum_declaration", .seq [optional (tok "const"), tok "enum", .field "name" "identifier", .field "body" "enum_body"]),
  ("enum_body", .seq [tok "\x7b",
    optional (.seq [
      sepBy1 (tok ",") (anyOf [.field "name" "_property_name", "enum_assignment"]),
      optional (tok ",")]),
    tok "\x7d"]),
  ("enum_assignment", .seq [.field "name" "_property_name", "_initializer"]),
  ("type_alias_declaration", .seq [tok "type", .field "name" "_type_identifier",
    optional "type_parameters", tok "=", .field "value" "type", "_semicolon"]),
  ("accessibility_modifier", words ["public", "private", "protected"]),
  ("override_modifier", tok "override"),
  ("required_parameter", .seq ["_parameter_name", optional "type_annotation", optional "_initializer"]),
  ("optional_parameter", .seq ["_parameter_name", tok "?", optional "type_annotation", optional "_initializer"]),
  ("_parameter_name", .seq [many "decorator", optional "accessibility_modifier",
    optional "override_modifier", optional (tok "readonly"), anyOf ["pattern", "this"]]),
  ("omitting_type_annotation", .seq [tok "-?:", "type"]),
  ("adding_type_annotation", .seq [tok "+?:", "type"]),
  ("opting_type_annotation", .seq [tok "?:", "type"]),
  ("type_annotation", .seq [tok ":", "type"]),
  ("_type_query_member_expression_in_type_annotation", .seq [
    anyOf ["import",
      shownAs "member_expression" "_type_query_member_expression_in_type_annotation",
      shownAs "call_expression" "_type_query_call_expression_in_type_annotation"],
    tok ".", anyOf ["private_property_identifier", shownAs "property_identifier" "identifier"]]),
  ("_type_query_call_expression_in_type_annotation", .seq [
    .field "function" (anyOf ["import",
      shownAs "member_expression" "_type_query_member_expression_in_type_annotation"]),
    "arguments"]),
  ("asserts", .seq [tok "asserts", anyOf ["type_predicate", "identifier", "this"]]),
  ("asserts_annotation", .seq [tok ":", "asserts"])]

def typeRules : List (String × Rule) := [
  ("type", anyOf ["primary_type", "function_type", "readonly_type", "constructor_type", "infer_type",
    .prec (.level (-1)) none (shownAs "member_expression" "_type_query_member_expression_in_type_annotation"),
    .prec (.level (-1)) none (shownAs "call_expression" "_type_query_call_expression_in_type_annotation")]),
  ("tuple_parameter", .seq [.field "name" (anyOf ["identifier", "rest_pattern"]), "type_annotation"]),
  ("optional_tuple_parameter", .seq [.field "name" "identifier", tok "?", "type_annotation"]),
  ("optional_type", .seq ["type", tok "?"]),
  ("rest_type", .seq [tok "...", "type"]),
  ("_tuple_type_member", anyOf [
    shownAs "required_parameter" "tuple_parameter",
    shownAs "optional_parameter" "optional_tuple_parameter",
    "optional_type", "rest_type", "type"]),
  ("constructor_type", left (.seq [optional (tok "abstract"), tok "new", optional "type_parameters",
    "formal_parameters", tok "=>", "type"])),
  ("primary_type", anyOf ["parenthesized_type", "predefined_type", "_type_identifier",
    "nested_type_identifier", "generic_type", "object_type", "array_type", "tuple_type",
    "flow_maybe_type", "type_query", "index_type_query", shownAs "this_type" "this",
    "existential_type", "literal_type", "lookup_type", "conditional_type",
    "template_literal_type", "intersection_type", "union_type", tok "const"]),
  ("template_type", .seq [tok "$\x7b", anyOf ["primary_type", "infer_type"], tok "\x7d"]),
  ("template_literal_type", .seq [tok "`",
    many (anyOf [shownAs "string_fragment" "_template_chars", "template_type"]), tok "`"]),
  ("infer_type", right (.seq [tok "infer", "_type_identifier", optional (.seq [tok "extends", "type"])])),
  ("conditional_type", right (.seq ["type", tok "extends", "type", tok "?", "type", tok ":", "type"])),
  ("generic_type", strong "call" (.seq [.field "name" (anyOf ["_type_identifier", "nested_type_identifier"]),
    "type_arguments"])),
  ("type_predicate", .seq [.field "name" (anyOf ["identifier", "this", shownAs "identifier" "predefined_type"]),
    tok "is", "type"]),
  ("type_predicate_annotation", .seq [tok ":", "type_predicate"]),
  ("_type_query_member_expression", .seq [
    anyOf ["identifier", "this",
      shownAs "subscript_expression" "_type_query_subscript_expression",
      shownAs "member_expression" "_type_query_member_expression",
      shownAs "call_expression" "_type_query_call_expression"],
    words [".", "?."],
    anyOf ["private_property_identifier", shownAs "property_identifier" "identifier"]]),
  ("_type_query_subscript_expression", .seq [
    anyOf ["identifier", "this",
      shownAs "subscript_expression" "_type_query_subscript_expression",
      shownAs "member_expression" "_type_query_member_expression",
      shownAs "call_expression" "_type_query_call_expression"],
    optional (tok "?."), tok "[", anyOf ["predefined_type", "string", "number"], tok "]"]),
  ("_type_query_call_expression", .seq [
    .field "function" (anyOf ["import", "identifier",
      shownAs "member_expression" "_type_query_member_expression",
      shownAs "subscript_expression" "_type_query_subscript_expression"]),
    "arguments"]),
  ("_type_query_instantiation_expression", .seq [
    .field "function" (anyOf ["import", "identifier",
      shownAs "member_expression" "_type_query_member_expression",
      shownAs "subscript_expression" "_type_query_subscript_expression"]),
    "type_arguments"]),
  ("type_query", right (.seq [tok "typeof", anyOf [
    shownAs "subscript_expression" "_type_query_subscript_expression",
    shownAs "member_expression" "_type_query_member_expression",
    shownAs "call_expression" "_type_query_call_expression",
    shownAs "instantiation_expression" "_type_query_instantiation_expression",
    "identifier", "this"]])),
  ("index_type_query", .seq [tok "keyof", "primary_type"]),
  ("lookup_type", .seq ["primary_type", tok "[", "type", tok "]"]),
  ("mapped_type_clause", .seq [.field "name" "_type_identifier", tok "in", "type",
    optional (.seq [tok "as", "type"])]),
  ("literal_type", anyOf [shownAs "unary_expression" "_number", "number", "string", "true", "false",
    "null", "undefined"]),
  ("_number", .prec (.level 1) (some .left) (.seq [words ["-", "+"], "number"])),
  ("existential_type", tok "*"),
  ("flow_maybe_type", right (.seq [tok "?", "primary_type"])),
  ("parenthesized_type", .seq [tok "(", "type", tok ")"]),
  ("predefined_type", anyOf [tok "any", tok "number", tok "boolean", tok "string", tok "symbol",
    shownAsToken "unique symbol" (.seq [tok "unique", tok "symbol"]),
    tok "void", tok "unknown", tok "never", tok "object"]),
  ("type_arguments", .seq [tok "<", commaSep1 "type", optional (tok ","), tok ">"]),
  ("object_type", .seq [words ["\x7b", "\x7b|"],
    optional (.seq [
      optional (words [",", ";"]),
      sepBy1 (anyOf [tok ",", "_semicolon"]) (anyOf ["export_statement", "property_signature",
        "call_signature", "construct_signature", "index_signature", "method_signature"]),
      optional (anyOf [tok ",", "_semicolon"])]),
    words ["\x7d", "|\x7d"]]),
  ("call_signature", "_call_signature"),
  ("property_signature", .seq [optional "accessibility_modifier", optional (tok "static"),
    optional "override_modifier", optional (tok "readonly"), .field "name" "_property_name",
    optional (tok "?"), optional "type_annotation"]),
  ("type_parameters", .seq [tok "<", commaSep1 "type_parameter", optional (tok ","), tok ">"]),
  ("type_parameter", .seq [optional (tok "const"), .field "name" "_type_identifier",
    optional "constraint", .field "value" (optional "default_type")]),
  ("default_type", .seq [tok "=", "type"]),
  ("constraint", .seq [words ["extends", ":"], "type"]),
  ("construct_signature", .seq [optional (tok "abstract"), tok "new", optional "type_parameters",
    "formal_parameters", optional "type_annotation"]),
  ("index_signature", .seq [
    optional (.seq [optional (words ["-", "+"]), tok "readonly"]),
    tok "[",
    anyOf [
      .seq [.field "name" (anyOf ["identifier", shownAs "identifier" "_reserved_identifier"]), tok ":", "type"],
      "mapped_type_clause"],
    tok "]",
    anyOf ["type_annotation", "omitting_type_annotation", "adding_type_annotation", "opting_type_annotation"]]),
  ("array_type", .seq ["primary_type", tok "[", tok "]"]),
  ("tuple_type", .seq [tok "[", commaSep "_tuple_type_member", optional (tok ","), tok "]"]),
  ("readonly_type", .seq [tok "readonly", "type"]),
  ("union_type", left (.seq [optional "type", tok "|", "type"])),
  ("intersection_type", left (.seq [optional "type", tok "&", "type"])),
  ("function_type", left (.seq [optional "type_parameters", "formal_parameters", tok "=>",
    anyOf ["type", "asserts", "type_predicate"]])),
  ("_type_identifier", shownAs "type_identifier" "identifier")]

end LessonService.Tsx
