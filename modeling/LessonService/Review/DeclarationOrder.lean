import LessonService.Script.Diagnostic
import LessonService.Text.Blank

namespace LessonService.Review

open Tsx Script

/-- The names that lessons give to the collections they are made from. -/
def collectionNames : List Text := [
  "questions", "quizQuestions", "steps", "cards", "flashcards", "concepts", "items", "sections",
  "slides", "topics", "terms", "options", "answers", "levels", "challenges", "examples", "facts",
  "pairs", "words", "tabs"]

/-- Hooks that call the function they are given while the component is drawn. -/
def eagerHooks : List Text := ["useState", "useReducer", "useMemo", "useRef"]

def functionKinds : List String := [
  "function_declaration", "function_expression", "function", "arrow_function", "method_definition",
  "generator_function_declaration", "generator_function"]

/-- A node with the nodes around it, the nearest first. -/
structure Located where
  node : Node
  around : List Node

mutual

/-- A node and all below it, in source order, each with what is around it. -/
def locate (around : List Node) : Node → List Located
  | .mk i cs => ⟨.mk i cs, around⟩ :: locateAll (.mk i cs :: around) cs

def locateAll (around : List Node) : List Node → List Located
  | [] => []
  | n :: ns => locate around n ++ locateAll around ns

end

/-- The last part of the name of the function that a call calls. -/
def calleeName (cs : Characters) (call : Node) : Text :=
  match call.child? "function" with
  | some callee => Text.trim ((textOf cs callee).reverse.takeWhile fun (c : CodePoint) => c ≠ '.').reverse
  | none => []

/-- Whether a function, given what is around it, is called while the component is drawn. -/
def isEager (cs : Characters) : List Node → Bool
  | holder :: call :: _ =>
    holder.kind = "arguments" && call.kind = "call_expression" && eagerHooks.contains (calleeName cs call)
  | _ => false

/-- The span of the function whose call evaluates what lies in the given nodes. -/
def scope (cs : Characters) : List Node → Nat × Nat
  | [] => (0, cs.size)
  | n :: around =>
    if functionKinds.contains n.kind && !isEager cs around then (n.start, n.stop) else scope cs around

/-- A declaration of a collection. -/
structure Declaration where
  declarator : Located
  nameNode : Node
  name : Text

/-- A use of a collection's name. -/
structure Use where
  located : Located
  name : Text

def declaration? (cs : Characters) (l : Located) : Option Declaration :=
  if l.node.kind = "variable_declarator" then
    match l.node.child? "name" with
    | some n =>
      if n.kind = "identifier" && collectionNames.contains (textOf cs n) then some ⟨l, n, textOf cs n⟩ else none
    | none => none
  else none

def use? (cs : Characters) (l : Located) : Option Use :=
  if l.node.kind = "identifier" || l.node.kind = "shorthand_property_identifier" then
    if collectionNames.contains (textOf cs l.node) then some ⟨l, textOf cs l.node⟩ else none
  else none

namespace Declaration

/-- The statement of a declaration: the node around it. -/
def statement (d : Declaration) : Node := d.declarator.around.head?.getD d.declarator.node

/-- The block of a declaration: the node around its statement. -/
def block (d : Declaration) : Node := (d.declarator.around.drop 1).head?.getD d.statement

/-- Whether a use comes too early for a declaration of its name. -/
def isAfter (cs : Characters) (d : Declaration) (u : Use) : Bool :=
  u.name = d.name && u.located.node.start ≠ d.nameNode.start && u.located.node.start < d.statement.stop
    && d.block.start ≤ u.located.node.start
    && scope cs u.located.around = scope cs d.declarator.around

end Declaration

/-- A use that comes too early, with the lines of the use and of the declaration. -/
structure EarlyUse where
  name : Text
  line : Nat
  declaredAt : Nat

def EarlyUse.message (e : EarlyUse) : Text :=
  "\"" ++ e.name ++ "\" is used at line " ++ Text.ofNat e.line ++ " before it is declared at line "
    ++ Text.ofNat e.declaredAt

/-- Keeps the first of those with one name and line. -/
def firstOfEachLine : List EarlyUse → List EarlyUse → List EarlyUse
  | kept, [] => kept
  | kept, e :: es =>
    if kept.any fun k => k.name = e.name && k.line = e.line then firstOfEachLine kept es
    else firstOfEachLine (kept ++ [e]) es

/-- The uses that come too early, at most one for each name and line. -/
def earlyUses (p : ParsedSource) : List EarlyUse :=
  let cs := p.characters
  let all := locate [] p.root
  let declarations := all.filterMap (declaration? cs)
  let uses := all.filterMap (use? cs)
  firstOfEachLine [] <| declarations.flatMap fun d =>
    (uses.filter (d.isAfter cs)).map fun u =>
      ⟨d.name, lineOf cs u.located.node.start, lineOf cs d.nameNode.start⟩

end LessonService.Review
