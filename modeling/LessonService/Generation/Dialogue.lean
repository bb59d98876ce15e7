import LessonService.Failure

namespace LessonService.Generation

/-- Work that asks and waits. It says what it asks next and how it goes on with each reply, so that it can be followed
whatever the replies are. -/
inductive Dialogue (ask reply α : Type) where
  | done (result : α)
  | ask (question : ask) (next : reply → Dialogue ask reply α)
  | wait (seconds : Rat) (next : Dialogue ask reply α)

namespace Dialogue

variable {ask reply α β : Type}

def bind (p : Dialogue ask reply α) (f : α → Dialogue ask reply β) : Dialogue ask reply β :=
  match p with
  | done a => f a
  | .ask q next => .ask q fun r => (next r).bind f
  | wait s next => wait s (next.bind f)

instance : Monad (Dialogue ask reply) where
  pure := done
  bind := bind

/-- Goes on with a result and hands a failure on. -/
def andThen (p : Dialogue ask reply (Except Failure α)) (f : α → Dialogue ask reply (Except Failure β)) :
    Dialogue ask reply (Except Failure β) :=
  p.bind fun
    | .ok a => f a
    | .error e => done (.error e)

/-- Asks again after a delay, as long as there are delays and the asking fails for want of quota. -/
def retry (delays : List Rat) (p : Dialogue ask reply (Except Failure α)) : Dialogue ask reply (Except Failure α) :=
  match delays with
  | [] => p
  | delay :: later => p.bind fun
    | .ok a => done (.ok a)
    | .error e => if e.isQuotaError then wait delay (retry later p) else done (.error e)

/-- Somebody who answers: a reply to each question, after some time. -/
structure Responder (ask reply σ : Type) where
  respond : σ → ask → Rat × reply × σ

/-- What was asked, how long it took and what came of it. There is no result if time was up. -/
structure Outcome (ask α σ : Type) where
  questions : List ask
  waited : Rat
  result : Option α
  state : σ

/-- Whether a wait would last until the deadline or longer. -/
def passes (deadline : Option Rat) (seconds : Rat) : Bool := seconds > 0 && deadline.elim false (· ≤ seconds)

/-- Follows a dialogue, for at most so many seconds if there is a deadline. -/
def follow {σ : Type} (responder : Responder ask reply σ) (deadline : Option Rat) (state : σ) :
    Dialogue ask reply α → Outcome ask α σ
  | done a => ⟨[], 0, some a, state⟩
  | .ask q next =>
    let (seconds, reply, state) := responder.respond state q
    if passes deadline seconds then ⟨[q], deadline.getD 0, none, state⟩
    else
      let rest := (next reply).follow responder (deadline.map (· - seconds)) state
      { rest with questions := q :: rest.questions, waited := seconds + rest.waited }
  | wait seconds next =>
    if passes deadline seconds then ⟨[], deadline.getD 0, none, state⟩
    else
      let rest := next.follow responder (deadline.map (· - seconds)) state
      { rest with waited := seconds + rest.waited }

end Dialogue

end LessonService.Generation
