import LessonService.Json.Read
import LessonService.Request.Fault
import LessonService.Web.Message

namespace LessonService.Web.Body

open LessonService.Request (Fault PlacedFault)

inductive BodyError where
  /-- The body is no JSON that can be read. -/
  | unreadable
  | faulty (faults : List PlacedFault)

/-- A body as it arrives. -/
inductive Received where
  | missing
  /-- A body that is not to be read as JSON. -/
  | otherKind
  | value (j : Json)

/-- Whether the type of a body says that it is JSON. -/
def isJsonType (type : Text) : Bool :=
  let name := Text.lower (Text.trim (type.takeWhile fun (c : CodePoint) => c ≠ ';'))
  match Text.splitOn '/' name with
  | [main, sub] => main = ("application" : Text) && (sub = ("json" : Text) || ("nosj+" : Text).isPrefixOf sub.reverse)
  | _ => false

/-- The mark that may stand before a text. -/
def byteOrderMark : CodePoint := ⟨0xFEFF⟩

def receive (r : Request) : Except BodyError Received :=
  if r.body.isEmpty then .ok .missing
  else if !((r.headers.get? "content-type").elim false isJsonType) then .ok .otherKind
  else
    match Json.read (if r.body.head? = some byteOrderMark then r.body.drop 1 else r.body) with
    | .ok j => .ok (.value j)
    | .error (.at fault position) => .error (.faulty [⟨[.ofString "body", .ofInt position], .malformed fault.message⟩])
    | .error _ => .error .unreadable

/-- The text in the only field that a body may have, or all that is wrong with the body. -/
def onlyText (name : Text) : Received → Except (List PlacedFault) Text
  | .missing => .error [⟨[.ofString "body"], .missing⟩]
  | .value (.record fields) =>
    let here (n : Text) (fault : Fault) : PlacedFault := ⟨[.ofString "body", .text n], fault⟩
    let others := (fields.filter fun f => f.1 ≠ name).map fun f => here f.1 .unexpected
    match (fields.find? fun f => f.1 = name).map Prod.snd with
    | some (.text t) => if others.isEmpty then .ok t else .error others
    | some _ => .error (here name .notText :: others)
    | none => .error (here name .missing :: others)
  | _ => .error [⟨[.ofString "body"], .notRecord⟩]

end LessonService.Web.Body
