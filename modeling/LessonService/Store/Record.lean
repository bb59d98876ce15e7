import LessonService.Text.Blank
import LessonService.Time

namespace LessonService.Store

inductive Status where
  | generating
  | generated
  | failed
deriving DecidableEq

def Status.name : Status → Text
  | generating => "generating"
  | generated => "generated"
  | failed => "failed"

def Status.all : List Status := [generating, generated, failed]

def Status.ofName? (t : Text) : Option Status := Status.all.find? fun s => s.name = t

structure Record where
  lessonId : Text
  title : Text
  outline : Text
  status : Status
  content : Option Text := none
  message : Option Text := none
  createdAt : Instant
  updatedAt : Instant
deriving DecidableEq

/-- Content belongs to a generated lesson, and a message to a failed one. -/
def Record.IsConsistent (r : Record) : Prop :=
  (r.status = .generated ↔ r.content.isSome) ∧ (r.status = .failed ↔ r.message.isSome)

instance (r : Record) : Decidable r.IsConsistent := inferInstanceAs (Decidable (_ ∧ _))

def interimTitle : Text := "Generating..."

def maxMessageLength : Nat := 4000

/-- A message that may be kept: never blank and never too long. -/
def capMessage (message : Text) : Text :=
  let t := Text.trim message
  let t : Text := if t.isEmpty then "Lesson generation failed" else t
  if t.length ≤ maxMessageLength then t else t.take (maxMessageLength - 3) ++ "..."

end LessonService.Store
