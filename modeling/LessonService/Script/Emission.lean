import LessonService.Script.Depth
import LessonService.Script.Diagnostic
import LessonService.Script.MarkupText
import LessonService.Text.Quoted

namespace LessonService.Script

open Tsx

/-- Why a source cannot be written. -/
inductive EmissionError where
  /-- It is nested too deeply to be followed. -/
  | tooDeep
  /-- A number to be read has too many digits. -/
  | longNumber (digits : Nat)
  /-- A number to be written has too many digits. -/
  | longValue
  /-- A node lacks a part that every node of its kind has. -/
  | missingPart
deriving DecidableEq

def EmissionError.message : EmissionError → Text
  | tooDeep => "maximum recursion depth exceeded"
  | longNumber digits => Decimal.longText digits
  | longValue => Decimal.unwritableText
  | missingPart => "list index out of range"

/-- A piece of the script, with what was noticed on the way. -/
structure Fragment where
  code : Text
  notes : List Diagnostic := []
  failure : Option EmissionError := none

namespace Fragment

def ofText (t : Text) : Fragment := { code := t }

instance : Coe Text Fragment := ⟨ofText⟩

def append (a b : Fragment) : Fragment where
  code := a.code ++ b.code
  notes := a.notes ++ b.notes
  failure := a.failure.or b.failure

instance : Append Fragment := ⟨append⟩

def failed (e : EmissionError) : Fragment := { code := [], failure := some e }

def join (separator : Text) : List Fragment → Fragment
  | [] => ofText []
  | [f] => f
  | f :: fs => f ++ ofText separator ++ join separator fs

end Fragment

/-- A syntax tree with the script of every node. -/
inductive Emitted where
  | mk (node : Node) (fragment : Fragment) (children : List Emitted)

namespace Emitted

def node : Emitted → Node
  | mk n _ _ => n

def fragment : Emitted → Fragment
  | mk _ f _ => f

def children : Emitted → List Emitted
  | mk _ _ cs => cs

def kind (e : Emitted) : String := e.node.kind

def namedChildren (e : Emitted) : List Emitted := e.children.filter fun c => c.node.isNamed

def child? (e : Emitted) (field : String) : Option Emitted :=
  e.children.find? fun c => c.node.info.field = some field

/-- The named children that are not comments. -/
def parts (e : Emitted) : List Emitted := e.namedChildren.filter fun c => c.kind ≠ "comment"

end Emitted

def unsupportedNote? : String → Option Text
  | "internal_module" => some (Text.ofString "namespace declarations are not supported")
  | "module" => some (Text.ofString "module declarations are not supported")
  | _ => none

def elementFactory : Text := "React.createElement"

def fragmentType : Text := "React.Fragment"

/-- Copies a node: what stands between its children, and the scripts of the children it keeps. -/
def weave (cs : Characters) (owner : String) (stop : Nat) : Nat → List Emitted → Fragment
  | position, [] => slice cs position stop
  | position, e :: rest =>
    Fragment.ofText (slice cs position e.node.start)
      ++ (if isErasedToken owner e.node then Fragment.ofText [] else e.fragment)
      ++ weave cs owner stop e.node.stop rest

def copy (cs : Characters) (i : NodeInfo) (children : List Emitted) : Fragment :=
  if children.isEmpty then Fragment.ofText (slice cs i.start i.stop)
  else weave cs i.kind i.stop i.start children

/-- A number in base ten. -/
def natOfDigits (t : Text) : Nat := t.foldl (fun n c => n * 10 + (c.value - 0x30)) 0

def isNumeral (t : Text) : Bool := !t.isEmpty && t.all CodePoint.isDigit

def readFailure (t : Text) : Option EmissionError :=
  if t.length > Decimal.maxDigits then some (.longNumber t.length) else none

def writeFailure (n : Nat) : Option EmissionError :=
  if n ≥ Nat.pow 10 Decimal.maxDigits then some .longValue else none

/-- The members of an enumeration. One without a value follows the number before it; after a value
that is no whole number it is undefined. -/
def enumMembers (cs : Characters) : Option Nat → List Emitted → List Fragment
  | _, [] => []
  | next, e :: rest =>
    if e.kind = "enum_assignment" then
      let key := (e.child? "name").or e.namedChildren.head?
      let value := (e.child? "value").or e.namedChildren.getLast?
      let written := value.elim (Fragment.ofText []) Emitted.fragment
      let isNumber := value.elim false (fun v => v.kind = "number") && isNumeral written.code
      let failure := if isNumber then readFailure written.code else none
      let next := if isNumber then some (natOfDigits written.code + 1) else none
      let lacking := if key.isNone || value.isNone then some .missingPart else none
      (Fragment.ofText (key.elim [] (fun k => textOf cs k.node) ++ ": ")
        ++ { written with failure := lacking.or (written.failure.or failure) }) :: enumMembers cs next rest
    else
      let value : Text := next.elim (Text.ofString "undefined") Text.ofNat
      ({ code := textOf cs e.node ++ ": " ++ value, failure := next.bind writeFailure : Fragment })
        :: enumMembers cs (next.map (· + 1)) rest

def enumeration (cs : Characters) (name body : Option Emitted) : Fragment :=
  let name : Text := name.elim (Text.ofString "Enum") fun n => textOf cs n.node
  let members := enumMembers cs (some 0) (body.elim [] Emitted.parts)
  Fragment.ofText ("const " ++ name ++ " = Object.freeze(\x7b ")
    ++ Fragment.join ", " members ++ Fragment.ofText " \x7d);"

/-- What a tag creates: an element by its name in quotes, a component by its name as it stands. -/
def elementType (cs : Characters) (opening : Emitted) : Text :=
  match opening.child? "name" with
  | none => fragmentType
  | some name =>
    let text := textOf cs name.node
    let isPlain := text.head?.elim false CodePoint.isLowercase || text.any (· = '-')
    if (name.kind = "identifier" && isPlain) || name.kind = "jsx_namespace_name" then Quoted.encode true text
    else text

def isIdentifierText : Text → Bool
  | [] => false
  | c :: t => (c.isLetter || c = '_' || c = '$') && t.all fun d => d.isWord || d = '$'

/-- A character reference in the text with too long a number. -/
def referenceFailure (t : Text) : Option EmissionError := (CharacterReference.overlong? t).map .longNumber

/-- An attribute as a property. -/
def property (cs : Characters) (given : Emitted) : Fragment :=
  match given.parts with
  | [] => Fragment.failed .missingPart
  | key :: rest =>
    let name := textOf cs key.node
    let name := if isIdentifierText name then name else Quoted.encode true name
    match rest with
    | [] => Fragment.ofText (name ++ ": true")
    | value :: _ =>
      if value.kind = "string" then
        let literal := ((textOf cs value.node).drop 1).dropLast
        { code := name ++ ": " ++ Quoted.encode false (CharacterReference.decode literal)
          failure := referenceFailure literal }
      else
        let written : Fragment :=
          if value.kind = "jsx_expression" then
            value.parts.head?.elim (Fragment.ofText "undefined") Emitted.fragment
          else value.fragment
        Fragment.ofText (name ++ ": ") ++ written

def properties (cs : Characters) (opening : Emitted) : Fragment :=
  let entries := opening.namedChildren.filterMap fun a =>
    if a.kind = "jsx_attribute" then some (property cs a)
    else if a.kind = "jsx_expression" then
      match a.parts with
      | inner :: _ => if inner.kind = "spread_element" then some inner.fragment else none
      | [] => none
    else none
  if entries.isEmpty then Fragment.ofText "null"
  else Fragment.ofText "\x7b " ++ Fragment.join ", " entries ++ Fragment.ofText " \x7d"

/-- A stretch of an element's content: text, or a node. -/
inductive Content where
  | text (start stop : Nat)
  | child (e : Emitted)

def contentKinds : List String := ["jsx_element", "jsx_self_closing_element", "jsx_expression"]

/-- The nodes in the content between two positions. -/
def contentNodes (start stop : Nat) (element : Emitted) : List Emitted :=
  element.namedChildren.filter fun c =>
    contentKinds.contains c.kind && c.node.start ≥ start && c.node.stop ≤ stop

/-- The content from a position to the end, text and nodes in turn. -/
def contentFrom (stop : Nat) : Nat → List Emitted → List Content
  | position, [] => [.text position stop]
  | position, e :: rest => .text position e.node.start :: .child e :: contentFrom stop e.node.stop rest

/-- The argument that a stretch of content becomes, if any. -/
def contentArgument? (cs : Characters) : Content → Option Fragment
  | .text start stop =>
    if stop ≤ start then none
    else
      let raw := slice cs start stop
      let text := MarkupText.clean raw
      let failure := referenceFailure raw
      if text.isEmpty && failure.isNone then none
      else some { code := Quoted.encode false text, failure }
  | .child e =>
    if e.kind = "jsx_expression" then e.parts.head?.map Emitted.fragment else some e.fragment

def contentArguments (cs : Characters) (element opening : Emitted) (closing : Option Emitted) : List Fragment :=
  let stop := closing.elim element.node.stop fun c => c.node.start
  let start := opening.node.stop
  (contentFrom stop start (contentNodes start stop element)).filterMap (contentArgument? cs)

def call (arguments : List Fragment) : Fragment :=
  Fragment.ofText (elementFactory ++ "(") ++ Fragment.join ", " arguments ++ Fragment.ofText ")"

/-- The call that creates an element. -/
def element (cs : Characters) (e : Emitted) : Fragment :=
  if e.kind = "jsx_self_closing_element" then call [Fragment.ofText (elementType cs e), properties cs e]
  else
    match (e.child? "open_tag").or e.namedChildren.head? with
    | some opening =>
      call (Fragment.ofText (elementType cs opening) :: properties cs opening
        :: contentArguments cs e opening (e.child? "close_tag"))
    | none => Fragment.failed .missingPart

def noted (cs : Characters) (i : NodeInfo) (f : Fragment) : Fragment :=
  match unsupportedNote? i.kind with
  | some message => { f with notes := Diagnostic.at cs i.start message :: f.notes }
  | none => f

/-- The script of a node, given those of its children. -/
def fragmentOf (cs : Characters) (i : NodeInfo) (below : List Node) (children : List Emitted) : Fragment :=
  let self := Emitted.mk (.mk i below) (Fragment.ofText []) children
  if erasedKinds.contains i.kind then Fragment.ofText []
  else if unwrappedKinds.contains i.kind then
    self.namedChildren.head?.elim (Fragment.ofText []) Emitted.fragment
  else if i.kind = "enum_declaration" then enumeration cs (self.child? "name") (self.child? "body")
  else if i.kind = "jsx_element" || i.kind = "jsx_self_closing_element" then element cs self
  else noted cs i (copy cs i children)

mutual

/-- What exists only for types is left out, enumerations become frozen objects, and markup becomes calls that create
elements; everything else is copied as it stands. -/
def emitTree (cs : Characters) : Node → Emitted
  | .mk i below =>
    let children := emitTrees cs below
    .mk (.mk i below) (fragmentOf cs i below children) children

def emitTrees (cs : Characters) : List Node → List Emitted
  | [] => []
  | n :: ns => emitTree cs n :: emitTrees cs ns

end

structure Transpiled where
  code : Text
  diagnostics : List Diagnostic

/-- The script of a source, with the problems of the source and what is not supported. Problems do
not stop it. -/
def transpile (source : Text) : Except EmissionError Transpiled :=
  let parsed := parse source
  if depth parsed.root > maxDepth then .error .tooDeep
  else
    let written := (emitTree parsed.characters parsed.root).fragment
    match written.failure with
    | some e => .error e
    | none => .ok ⟨written.code, syntaxDiagnostics parsed ++ written.notes⟩

end LessonService.Script
