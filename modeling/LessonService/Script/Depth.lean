import LessonService.Tsx.Node

namespace LessonService.Script

open Tsx

/-- Nodes that exist only for types. -/
def erasedKinds : List String := [
  "type_annotation", "type_arguments", "type_parameters", "type_predicate_annotation",
  "asserts_annotation", "interface_declaration", "type_alias_declaration", "ambient_declaration",
  "implements_clause", "accessibility_modifier", "override_modifier", "function_signature",
  "method_signature", "abstract_method_signature", "index_signature"]

/-- Tokens that exist only for types, by the node that owns them. -/
def erasedTokens : String → List String
  | "optional_parameter" => ["?"]
  | "required_parameter" => ["readonly"]
  | "public_field_definition" => ["?", "!", "readonly", "declare", "abstract", "override"]
  | "method_definition" => ["?", "override"]
  | "abstract_class_declaration" => ["abstract"]
  | _ => []

/-- Nodes of which only the expression inside is kept. -/
def unwrappedKinds : List String := ["as_expression", "satisfies_expression", "non_null_expression"]

def isErasedToken (owner : String) (n : Node) : Bool := !n.isNamed && (erasedTokens owner).contains n.kind

/-- How many steps down a node of a kind takes. -/
def steps : String → Nat
  | "jsx_element" | "jsx_self_closing_element" => 3
  | "jsx_opening_element" | "jsx_closing_element" | "jsx_expression" => 0
  | "jsx_attribute" => 1
  | "enum_body" | "enum_assignment" => 0
  | _ => 2

mutual

/-- The number of steps on the longest way down. -/
def depth : Node → Nat
  | .mk i cs =>
    if erasedKinds.contains i.kind then 1
    else if unwrappedKinds.contains i.kind then depthOfFirst cs + 1
    else depthOfAll i.kind cs + steps i.kind

/-- The way down into the first named node. -/
def depthOfFirst : List Node → Nat
  | [] => 0
  | n :: ns => if n.isNamed then depth n else depthOfFirst ns

def depthOfAll (owner : String) : List Node → Nat
  | [] => 0
  | n :: ns => max (if isErasedToken owner n then 0 else depth n) (depthOfAll owner ns)

end

/-- How far down a source is followed. -/
def maxDepth : Nat := 985

end LessonService.Script
