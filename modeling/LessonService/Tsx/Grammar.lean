import LessonService.Tsx.Grammar.Types

namespace LessonService.Tsx

open LessonService.Grammar

def names (texts : List String) : List Ranked := texts.map .name

def rules (texts : List String) : List Ranked := texts.map .rule

def orderings : List (List Ranked) := [
  names ["member", "template_call", "call"] ++ rules ["update_expression"] ++ names
    ["unary_void", "binary_exp", "binary_times", "binary_plus", "binary_shift", "binary_compare",
    "binary_relation", "binary_equality", "bitwise_and", "bitwise_xor", "bitwise_or",
    "logical_and", "logical_or", "ternary"] ++ rules ["sequence_expression", "arrow_function"],
  names ["assign"] ++ rules ["primary_expression"],
  names ["member", "template_call", "new", "call"] ++ rules ["expression"],
  names ["declare", "literal"],
  rules ["primary_expression", "statement_block"] ++ names ["object"],
  rules ["meta_property", "import"],
  rules ["import_statement", "import"],
  rules ["export_statement", "primary_expression"],
  rules ["lexical_declaration", "primary_expression"],
  names ["call", "instantiation", "unary", "binary"] ++ rules ["await_expression",
    "arrow_function"],
  names ["extends", "instantiation"],
  rules ["intersection_type", "union_type", "conditional_type", "function_type"] ++ names
    ["binary"] ++ rules ["type_predicate", "readonly_type"],
  rules ["mapped_type_clause", "primary_expression"],
  rules ["accessibility_modifier", "primary_expression"],
  names ["unary_void"] ++ rules ["expression"],
  rules ["extends_clause", "primary_expression"],
  names ["unary", "assign"],
  names ["declare"] ++ rules ["expression"],
  rules ["predefined_type", "unary_expression"],
  rules ["type", "flow_maybe_type"],
  rules ["tuple_type", "array_type", "pattern", "type"],
  rules ["readonly_type", "pattern"],
  rules ["readonly_type", "primary_expression"],
  rules ["type_query", "subscript_expression", "expression"],
  rules ["type_query", "_type_query_subscript_expression"],
  rules ["nested_type_identifier", "generic_type", "primary_type", "lookup_type",
    "index_type_query", "type"],
  rules ["as_expression", "satisfies_expression", "primary_type"],
  rules ["_type_query_member_expression", "member_expression"],
  rules ["member_expression", "_type_query_member_expression_in_type_annotation"],
  rules ["_type_query_member_expression", "primary_expression"],
  rules ["_type_query_subscript_expression", "subscript_expression"],
  rules ["_type_query_subscript_expression", "primary_expression"],
  rules ["_type_query_call_expression", "primary_expression"],
  rules ["_type_query_instantiation_expression", "primary_expression"],
  rules ["type_query", "primary_expression"],
  rules ["override_modifier", "primary_expression"],
  rules ["decorator_call_expression", "decorator"],
  rules ["literal_type", "pattern"],
  rules ["predefined_type", "pattern"],
  rules ["call_expression", "_type_query_call_expression"],
  rules ["call_expression", "_type_query_call_expression_in_type_annotation"],
  rules ["new_expression", "primary_expression"],
  rules ["meta_property", "primary_expression"],
  rules ["construct_signature", "_property_name"]]

/-- Scripts with types and markup. The orderings say which construct wins where two compete; what they leave open is
decided by reading on. -/
def grammar : RuleSet where
  rules := moduleRules ++ statementRules ++ operandRules ++ markupRules ++ functionRules
    ++ literalRules ++ memberRules ++ typedDeclarationRules ++ typeRules
  scanned := ["_automatic_semicolon", "_template_chars", "_ternary_qmark", "html_comment", "||",
    "escape_sequence", "regex_pattern", "jsx_text", "_function_signature_automatic_semicolon"]
  extras := ["comment", "html_comment"]
  groups := ["statement", "declaration", "expression", "primary_expression", "pattern", "type",
    "primary_type"]
  inlined := ["_expressions", "_semicolon", "_identifier", "_reserved_identifier",
    "_jsx_attribute", "_jsx_element_name", "_jsx_child", "_jsx_element", "_jsx_attribute_name",
    "_jsx_attribute_value", "_jsx_identifier", "_lhs_expression", "_type_identifier",
    "_jsx_start_opening_element"]
  orderings := orderings
  word := "identifier"

end LessonService.Tsx
