import LessonService.Generation.Dialogue
import LessonService.Generation.Prompt
import LessonService.Review.Rule

namespace LessonService.Generation

/-- A writer makes the first draft; as long as drafts are rejected, a repairer is given the last one with what is wrong
with it. -/
inductive Role where
  | writer
  | repairer
  | titler
deriving DecidableEq

namespace Role

def agent : Role → Text
  | writer => "CodeWriter"
  | repairer => "Repairer"
  | titler => "Titler"

def purpose : Role → Text
  | writer => "generate_lesson"
  | repairer => "repair_lesson"
  | titler => "extract_title"

end Role

/-- A question to a model. -/
structure Question where
  role : Role
  prompt : Text

/-- How many tokens were used, by name. -/
abbrev Usage := List (Text × Int)

structure Answer where
  content : Text
  usage : Usage := []

abbrev Conversation (α : Type) := Dialogue Question (Except Failure Answer) (Except Failure α)

structure Request where
  lessonId : Text
  outline : Text
  attempt : Int := 0

structure Draft where
  code : Text
  usage : Usage

/-- What a validator says of a text. -/
structure Verdict where
  isValid : Bool
  violations : List Text

def Verdict.ofViolations (violations : List Text) : Verdict := ⟨violations.isEmpty, violations⟩

/-- A validator is told how many texts it has seen before. -/
abbrev Validator := Nat → Text → Verdict

/-- The validator that applies all rules, every time. -/
def standardValidator : Validator := fun _ t => Verdict.ofViolations (Review.review t)

/-- Who is asked, how often, and how long to wait before asking again for want of quota. -/
structure Plan where
  provider : Text
  delays : List Rat := [5, 20, 50]
  hasTitler : Bool := true
  validator : Validator := standardValidator
  maxAttempts : Int := 3

/-- What is wrong with a plan. -/
inductive PlanError where
  | noAttempts
deriving DecidableEq

def PlanError.message : PlanError → Text
  | noAttempts => "max_attempts must be at least 1."

/-- A bound on the attempts, which leaves one at least. -/
def ceiling (most : Int) : Except PlanError Int := if most < 1 then .error .noAttempts else .ok most

structure Lesson where
  code : Text
  title : Text
  attempts : Int
  usage : List Usage

def totalTokens (usage : List Usage) : Int :=
  usage.foldl (fun n u => n + ((u.find? fun entry => entry.1 = Text.ofString "total_tokens").map Prod.snd).getD 0) 0

/-- Puts a question to the model, again if quota is wanting. A blank answer is a failure. -/
def call (plan : Plan) (q : Question) : Conversation Answer :=
  (Dialogue.retry plan.delays (.ask q .done)).andThen fun answer =>
    if Text.isBlank answer.content then
      .done (.error (.pipeline (.transportFailure
        (q.role.agent ++ " received an empty response from " ++ plan.provider ++ " (" ++ q.role.purpose ++ ")"))))
    else .done (.ok answer)

/-- What makers of drafts are asked for: a first draft, or the repair of a draft with what is wrong
with it. -/
inductive Task where
  | write (outline : Text) (attempt : Int)
  | repair (outline code : Text) (violations : List Text)

def Task.question : Task → Question
  | write outline attempt => ⟨.writer, generationPrompt outline (attempt + 1)⟩
  | repair outline code violations => ⟨.repairer, repairPrompt outline code violations⟩

/-- Who makes drafts, and titles from outlines if anybody does. Each of them asks in a dialogue of
its own. -/
structure Agents (ask reply : Type) where
  draft : Task → Dialogue ask reply (Except Failure Draft)
  title : Option (Text → Dialogue ask reply (Except Failure Text))

/-- The agents that put their questions to the models. -/
def Plan.agents (plan : Plan) : Agents Question (Except Failure Answer) where
  draft task := (call plan task.question).andThen fun answer =>
    .done (.ok ⟨cleanCode answer.content, answer.usage⟩)
  title :=
    if plan.hasTitler then
      some fun outline => (call plan ⟨.titler, titlePrompt outline⟩).andThen fun answer =>
        .done (.ok (cleanTitle answer.content))
    else none

/-- A draft with what the validator says of it. -/
structure Judged where
  code : Text
  verdict : Verdict

/-- How far the attempts have come. -/
structure Progress where
  attempt : Int
  judged : Option Judged := none
  failure : Option Failure := none
  usage : List Usage := []
  /-- How many texts the validator has seen. -/
  seen : Nat := 0

namespace Progress

/-- The next task: a first draft, or the repair of the last one. -/
def task (p : Progress) (outline : Text) : Task :=
  match p.judged with
  | none => .write outline p.attempt
  | some j => .repair outline j.code j.verdict.violations

def failed (p : Progress) (e : Failure) : Progress :=
  { p with attempt := p.attempt + 1, failure := some e }

def drafted (p : Progress) (validator : Validator) (d : Draft) : Progress where
  attempt := p.attempt + 1
  judged := some ⟨d.code, validator p.seen d.code⟩
  failure := none
  usage := if d.usage.isEmpty then p.usage else p.usage ++ [d.usage]
  seen := p.seen + 1

/-- After one more attempt, whatever came of it. -/
def advance (validator : Validator) (p : Progress) : Except Failure Draft → Progress
  | .error e => p.failed e
  | .ok d => p.drafted validator d

/-- Whether the last attempt gave a draft that is accepted. -/
def isAccepted (p : Progress) : Bool := p.failure.isNone && p.judged.elim false fun j => j.verdict.isValid

end Progress

section Orchestration

variable {ask reply : Type} (agents : Agents ask reply) (validator : Validator)

/-- Makes at most so many attempts, and none after an accepted draft. -/
def attempts (outline : Text) : Nat → Progress → Dialogue ask reply Progress
  | 0, p => .done p
  | left + 1, p =>
    (agents.draft (p.task outline)).bind fun outcome =>
      let next := p.advance validator outcome
      if next.isAccepted then .done next else attempts outline left next

/-- The title of a lesson: what the titler says, or else the outline itself. -/
def title (outline : Text) : Dialogue ask reply Text :=
  let own := truncateTitle outline
  let own := if own.isEmpty then fallbackTitle else own
  match agents.title with
  | some titler => (titler outline).bind fun
    | .ok t => .done t
    | .error _ => .done own
  | none => .done own

/-- What comes of the attempts. Code that has been accepted is looked at once more. -/
def conclude (outline : Text) (p : Progress) : Dialogue ask reply (Except Failure Lesson) :=
  match p.failure, p.judged with
  | some e, _ => .done (.error (.pipeline (.transportFailure
      (match e with
        | .pipeline (.transportFailure m) => m
        | e => e.describe))))
  | none, none => .done (.error (.pipeline (.transportFailure "No generation attempts were made")))
  | none, some j =>
    if !j.verdict.isValid then .done (.error (.pipeline (.validationRejected j.verdict.violations p.attempt)))
    else
      let again := validator p.seen j.code
      if !again.isValid then .done (.error (.pipeline (.validationRejected again.violations p.attempt)))
      else (title agents outline).bind fun t => .done (.ok ⟨j.code, t, p.attempt, p.usage⟩)

/-- Makes a lesson with the help of agents. -/
def orchestrate (maxAttempts : Int) (r : Request) : Dialogue ask reply (Except Failure Lesson) :=
  (attempts agents validator r.outline (maxAttempts - r.attempt).toNat { attempt := r.attempt }).bind
    (conclude agents validator r.outline)

end Orchestration

/-- Makes a lesson. -/
def generateLesson (plan : Plan) (r : Request) : Conversation Lesson :=
  orchestrate plan.agents plan.validator plan.maxAttempts r

end LessonService.Generation
