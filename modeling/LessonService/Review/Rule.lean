import LessonService.Review.DeclarationOrder
import LessonService.Script.Compile

namespace LessonService.Review

open Pattern Script Tsx

/-- What is asked of a lesson's source. -/
inductive Rule where
  | nonEmpty
  | encoding
  | defaultExport
  | componentName
  | markupReturn
  | closedMarkup
  | hazards
  | imports
  | balance
  | clientDirective
  | hookImport
  | declarationOrder
  | syntaxErrors
deriving DecidableEq

namespace Rule

/-- The rules in the order in which their violations are reported. -/
def all : List Rule := [
  nonEmpty, encoding, defaultExport, componentName, markupReturn, closedMarkup, hazards, imports,
  balance, clientDirective, hookImport, declarationOrder, syntaxErrors]

def name : Rule → Text
  | nonEmpty => "non_empty"
  | encoding => "encoding"
  | defaultExport => "default_export"
  | componentName => "component_name"
  | markupReturn => "markup_return"
  | closedMarkup => "closed_markup"
  | hazards => "dangerous_patterns"
  | imports => "imports"
  | balance => "balanced_delimiters"
  | clientDirective => "client_directive"
  | hookImport => "hook_import"
  | declarationOrder => "declaration_order"
  | syntaxErrors => "syntax"

end Rule

/-- The words that begin a default export of a function. -/
def exportWords : Pattern :=
  seq [edge, exactly "export", someBlanks, exactly "default", someBlanks, exactly "function"]

def exportCount (source : Text) : Nat := ((both exportWords edge).findAll source).length

/-- The name of the first function that is exported by default; empty if it has none. -/
def componentName? (source : Text) : Option Text :=
  ((seq [exportWords, blanks, optional (oneIn "*"), blanks]).find? source).map fun (_, after) =>
    match after.rest with
    | c :: _ => if isNameStart c then after.rest.takeWhile isNamePart else []
    | [] => []

def hookReference : Pattern := seq [
  edge, oneOf (["useState", "useEffect", "useMemo", "useCallback", "useRef", "useContext", "useReducer"].map
    fun hook => exactly (Text.ofString hook)), edge]

def reactImport : Pattern := seq [exactly "from", someBlanks, oneIn "\"'", exactly "react", oneIn "\"'"]

/-- The pairs of delimiters, with what they are called. -/
def delimiters : List (CodePoint × CodePoint × Text) := [
  ('\x7b', '\x7d', "braces"), ('(', ')', "parentheses"), ('[', ']', "brackets")]

def imbalance? (source : Text) : CodePoint × CodePoint × Text → Option Text
  | (opener, closer, label) =>
    let opened := source.count opener
    let closed := source.count closer
    if opened = closed then none
    else some ("Unbalanced " ++ label ++ " (" ++ Text.ofNat opened ++ " open, " ++ Text.ofNat closed ++ " close)")

def has (part : String) (source : Text) : Bool := Text.contains (Text.ofString part) source

/-- A message where a rule is broken. -/
def require (kept : Bool) (message : String) : List Text := if kept then [] else [Text.ofString message]

def exportViolations (source : Text) : List Text :=
  let count := exportCount source
  if count = 0 then ["Missing default export function (must use: export default function ComponentName())"]
  else if count > 1 then
    ["Found " ++ Text.ofNat count ++ " default export functions (exactly one is allowed)"]
  else []

def nameViolations (source : Text) : List Text :=
  match componentName? source with
  | none => []
  | some [] => ["Default export function must be named (e.g. export default function LessonComponent())"]
  | some (c :: rest) =>
    if c.isUpperLetter then []
    else ["Component name \"" ++ (c :: rest) ++ "\" must start with uppercase letter"]

def encodingViolations (source : Text) : List Text :=
  match unpairedLine? source with
  | none => []
  | some line =>
    ["Invalid character at line " ++ Text.ofNat line ++ " (unpaired surrogate cannot be encoded as UTF-8)"]

def importViolation (module : Text) : Text :=
  "Contains unsupported import: \"" ++ module ++ "\" (only React imports allowed)"

/-- What a rule has against a source, given with its syntax tree. -/
def Rule.violations (source : Text) (parsed : ParsedSource) : Rule → List Text
  | nonEmpty => require (!Text.isBlank source) "Code is empty"
  | encoding => encodingViolations source
  | defaultExport => exportViolations source
  | componentName => nameViolations source
  | markupReturn =>
    require (has "return (" source || has "return(" source || has "return <" source)
      "Missing return statement with JSX"
  | closedMarkup =>
    require (!(has "<" source && has ">" source && !has "</" source)) "JSX elements not properly closed"
  | hazards => (Hazard.within source).map Hazard.message
  | imports => (foreignTargets source).map importViolation
  | balance => delimiters.filterMap (imbalance? source)
  | clientDirective =>
    require (has "\"use client\"" source || has "'use client'" source) "Missing \"use client\" directive at the top"
  | hookImport =>
    require (!(hookReference.occursIn source && !reactImport.occursIn source))
      "Uses React hooks but missing React import"
  | declarationOrder => if Text.isBlank source then [] else (earlyUses parsed).map EarlyUse.message
  | syntaxErrors =>
    if Text.isBlank source then []
    else (syntaxDiagnostics parsed).map fun d =>
      "Syntax error at line " ++ Text.ofNat d.line ++ ": " ++ d.message

/-- What some rules have against a source. -/
def reviewBy (rules : List Rule) (source : Text) : List Text :=
  let parsed := parse source
  rules.flatMap (Rule.violations source parsed)

/-- What is wrong with a source. -/
def review (source : Text) : List Text := reviewBy Rule.all source

def isAccepted (source : Text) : Bool := (review source).isEmpty

end LessonService.Review
