import LessonService.Generation.Orchestration
import LessonService.Request.Fault
import LessonService.Store.Operation

namespace LessonService.Generation

/-- What is wrong with a request for a lesson. -/
def Request.faults (r : Request) : List LessonService.Request.PlacedFault :=
  let outline : List LessonService.Request.PlacedFault :=
    if r.outline.isEmpty then [⟨[.ofString "outline"], .tooShort 1⟩]
    else if r.outline.any CodePoint.isUnpaired then [⟨[.ofString "outline"], .notEncodable⟩]
    else []
  outline ++ (if r.attempt < 0 then [⟨[.ofString "attempt"], .below 0⟩] else [])

/-- How the making of a lesson ends. -/
inductive Ending where
  | made (code title : Text)
  | timedOut
  | failed (e : Failure)

/-- What comes of a dialogue that may have been stopped. A failure to answer in time counts as if
time were up. -/
def Ending.ofResult : Option (Except Failure Lesson) → Ending
  | none => timedOut
  | some (.ok lesson) => made lesson.code lesson.title
  | some (.error e) => if e.name = ("TimeoutError" : Text) then timedOut else failed e

def minCodeLength : Nat := 100

/-- What accepted code may still lack. -/
def structureFault? (code : Text) : Option Text :=
  if code.length < minCodeLength then some "Generated code is too short to be valid"
  else if !Text.contains "export default function" code || !Text.contains "return" code then
    some "Generated code missing required React component structure"
  else none

/-- The write that finishes a lesson. -/
inductive FinalWrite where
  | generated (title content : Text)
  | failed (message : Text)

namespace FinalWrite

def ofEnding (timeout : Int) : Ending → FinalWrite
  | .timedOut => failed (PipelineError.timeoutExceeded timeout).message
  | .failed (.pipeline e) => failed e.message
  | .failed (.other _ text) => failed (if text.isEmpty then "Unexpected error during generation" else text)
  | .made code title =>
    match structureFault? code with
    | some fault => failed fault
    | none => generated title code

def status : FinalWrite → Store.Status
  | generated _ _ => .generated
  | failed _ => .failed

/-- The operation on the store that finishes a lesson. -/
def operation (lessonId : Text) : FinalWrite → Store.Operation
  | generated title content => .markGenerated lessonId title content
  | failed message => .markFailed lessonId message

/-- Writes to the store. Whether the lesson was still generating does not matter. -/
def apply (s : Store) (now : Instant) (lessonId : Text) (w : FinalWrite) : Except Store.StoreError Store :=
  ((w.operation lessonId).perform now s).map Prod.snd

end FinalWrite

/-- Work on a store, which may refuse what it is asked. -/
abbrev StoreWork (ε α : Type) := Dialogue Store.Operation (Except ε Store.Answer) (Except ε α)

/-- Finishes a lesson in the store and reports what it was to become. Whether the lesson was still generating is
not looked at; only a refusal is handed on. -/
def Ending.close {ε : Type} (timeout : Int) (lessonId : Text) (ending : Ending) : StoreWork ε Store.Status :=
  let write := FinalWrite.ofEnding timeout ending
  .ask (write.operation lessonId) fun
    | .ok _ => .done (.ok write.status)
    | .error e => .done (.error e)

/-- The whole seconds of a span, towards zero. -/
def wholeSeconds (seconds : Rat) : Int := if seconds < 0 then seconds.ceil else seconds.floor

/-- Lets a lesson be made within so many seconds. -/
def makeWithin {σ : Type} (seconds : Rat) (responder : Dialogue.Responder Question (Except Failure Answer) σ)
    (plan : Plan) (state : σ) (r : Request) : Ending × Dialogue.Outcome Question (Except Failure Lesson) σ :=
  let outcome := (generateLesson plan r).follow responder (some seconds) state
  (.ofResult outcome.result, outcome)

/-- Lets a stored lesson be made within so many seconds, and then finishes it. -/
def runLesson {σ : Type} (seconds : Rat) (responder : Dialogue.Responder Question (Except Failure Answer) σ)
    (plan : Plan) (state : σ) (r : Request) (now : Instant) (s : Store) : Except Store.StoreError Store :=
  (FinalWrite.ofEnding (wholeSeconds seconds) (makeWithin seconds responder plan state r).1).apply s now r.lessonId

end LessonService.Generation
