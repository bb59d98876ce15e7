import LessonService.Generation.Orchestration
import LessonService.Proofs.Generation.Transcript
import Mathlib.Data.List.Induction

namespace LessonService.Generation

variable {ask reply : Type} {agents : Agents ask reply} {validator : Validator} {outline : Text}

/-- A call of an agent. -/
structure AgentCall where
  task : Task
  outcome : Except Failure Draft

/-- Calls that are made one after the other, with all that is asked and replied in them. -/
inductive Made (agents : Agents ask reply) : List AgentCall → List (ask × reply) → Prop
  | none : Made agents [] []
  | next {call : AgentCall} {calls : List AgentCall} {first later : List (ask × reply)} :
      (agents.draft call.task).Gives first call.outcome → Made agents calls later →
      Made agents (call :: calls) (first ++ later)

theorem Made.concat {calls : List AgentCall} {call : AgentCall} {heard : List (ask × reply)}
    (made : Made agents (calls ++ [call]) heard) :
    ∃ first last, heard = first ++ last ∧ Made agents calls first ∧ (agents.draft call.task).Gives last call.outcome := by
  induction calls generalizing heard with
  | nil =>
    obtain _ | ⟨called, nothing⟩ := made
    cases nothing
    exact ⟨[], _, List.append_nil _, .none, called⟩
  | cons c calls ih =>
    obtain _ | ⟨called, later⟩ := made
    obtain ⟨first, last, rfl, before, final⟩ := ih later
    exact ⟨_, last, (List.append_assoc ..).symm, .next called before, final⟩

/-- How far attempts have come after calls. -/
def Progress.after (validator : Validator) (p : Progress) (calls : List AgentCall) : Progress :=
  calls.foldl (fun p call => p.advance validator call.outcome) p

theorem Progress.after_concat (p : Progress) (calls : List AgentCall) (call : AgentCall) :
    p.after validator (calls ++ [call]) = (p.after validator calls).advance validator call.outcome := by
  simp only [after, List.foldl_append, List.foldl_cons, List.foldl_nil]

/-- Attempts are calls for the task that is next each time. None comes after an accepted draft, and unless a
draft is accepted there are as many as there may be. -/
theorem attempts_gives {left : Nat} {p last : Progress} {heard : List (ask × reply)}
    (run : (attempts agents validator outline left p).Gives heard last) :
    ∃ calls, Made agents calls heard ∧ last = p.after validator calls ∧ calls.length ≤ left ∧
      (last.isAccepted = false → calls.length = left) ∧
      ∀ first call rest, calls = first ++ call :: rest →
        call.task = (p.after validator first).task outline ∧
        (rest ≠ [] → (p.after validator (first ++ [call])).isAccepted = false) := by
  induction left generalizing p heard with
  | zero =>
    cases run
    exact ⟨[], .none, rfl, Nat.le_refl _, fun _ => rfl, fun first call rest split => by simp at split⟩
  | succ left ih =>
    obtain ⟨first, outcome, later, rfl, called, rest⟩ := Dialogue.bind_gives.mp run
    by_cases accepted : (p.advance validator outcome).isAccepted = true
    · simp only [accepted, if_true] at rest
      cases rest
      refine ⟨[⟨p.task outline, outcome⟩], .next called .none, rfl, by simp, ?_, ?_⟩
      · intro rejected
        rw [accepted] at rejected
        cases rejected
      · intro first call rest split
        cases first with
        | nil =>
          cases split
          exact ⟨rfl, fun more => absurd rfl more⟩
        | cons c first => simp at split
    · simp only [accepted] at rest
      obtain ⟨calls, made, same, bound, all, steps⟩ := ih rest
      refine ⟨⟨p.task outline, outcome⟩ :: calls, .next called made, same, by simpa using bound, ?_, ?_⟩
      · intro rejected
        rw [List.length_cons, all rejected]
      · intro first call rest split
        cases first with
        | nil =>
          cases split
          exact ⟨rfl, fun _ => by simpa [Progress.after] using accepted⟩
        | cons c first =>
          cases split
          exact steps first call rest rfl

/-- The drafts that calls gave, in their order. -/
def drafts (calls : List AgentCall) : List Draft := calls.filterMap fun call => call.outcome.toOption

/-- The usage of drafts, in their order, as far as they come with any. -/
def usages (ds : List Draft) : List Usage := (ds.map Draft.usage).filter fun usage => !usage.isEmpty

/-- Whether a call gave a draft that is accepted. -/
def AgentCall.isAccepted (judge : Text → Verdict) (call : AgentCall) : Bool :=
  match call.outcome with
  | .ok d => (judge d.code).isValid
  | .error _ => false

def AgentCall.failure? (call : AgentCall) : Option Failure :=
  match call.outcome with
  | .ok _ => none
  | .error e => some e

/-- What is known after calls: the count of them, the last draft with the verdict on that draft, the failure of
the last call, and the usage of all drafts. -/
structure Progress.Reflects (validator : Validator) (attempt : Int) (calls : List AgentCall) (p : Progress) :
    Prop where
  attempt : p.attempt = attempt + calls.length
  judged : p.judged = (drafts calls).getLast?.map fun d => ⟨d.code, validator ((drafts calls).length - 1) d.code⟩
  failure : p.failure = calls.getLast?.bind AgentCall.failure?
  usage : p.usage = usages (drafts calls)
  seen : p.seen = (drafts calls).length

theorem drafts_concat_error (calls : List AgentCall) {call : AgentCall} {e : Failure}
    (failed : call.outcome = .error e) : drafts (calls ++ [call]) = drafts calls := by
  simp [drafts, failed, Except.toOption]

theorem drafts_concat_ok (calls : List AgentCall) {call : AgentCall} {d : Draft}
    (drafted : call.outcome = .ok d) : drafts (calls ++ [call]) = drafts calls ++ [d] := by
  simp [drafts, drafted, Except.toOption]

/-- A call that fails leaves the last draft and its verdict together as they were, and a call that gives a draft
replaces both. -/
theorem Progress.Reflects.advance {attempt : Int} {calls : List AgentCall} {p : Progress}
    (reflects : p.Reflects validator attempt calls) (call : AgentCall) :
    (p.advance validator call.outcome).Reflects validator attempt (calls ++ [call]) := by
  have counted : p.attempt + 1 = attempt + ((calls ++ [call]).length : Nat) := by
    rw [reflects.attempt, List.length_append, List.length_singleton]
    omega
  cases outcome : call.outcome with
  | error e =>
    have same := drafts_concat_error calls outcome
    exact {
      attempt := counted
      judged := by rw [same]; exact reflects.judged
      failure := by simp [Progress.advance, Progress.failed, AgentCall.failure?, outcome]
      usage := by rw [same]; exact reflects.usage
      seen := by rw [same]; exact reflects.seen }
  | ok d =>
    have more := drafts_concat_ok calls outcome
    exact {
      attempt := counted
      judged := by simp [more, Progress.advance, Progress.drafted, reflects.seen]
      failure := by simp [Progress.advance, Progress.drafted, AgentCall.failure?, outcome]
      usage := by
        cases empty : d.usage.isEmpty <;>
          simp [more, Progress.advance, Progress.drafted, reflects.usage, usages, empty]
      seen := by simp [more, Progress.advance, Progress.drafted, reflects.seen] }

theorem Progress.after_reflects (validator : Validator) (attempt : Int) (calls : List AgentCall) :
    (Progress.after validator { attempt } calls).Reflects validator attempt calls := by
  induction calls using List.reverseRecOn with
  | nil => exact ⟨by simp [after], rfl, rfl, rfl, rfl⟩
  | append_singleton calls call ih =>
    rw [after_concat]
    exact ih.advance call

/-- The next task is a first draft exactly while there is none, and else the repair of the last one with the
verdict on it. -/
theorem Progress.Reflects.task_eq {attempt : Int} {calls : List AgentCall} {p : Progress}
    (reflects : p.Reflects validator attempt calls) (outline : Text) :
    p.task outline =
      match (drafts calls).getLast? with
      | none => .write outline (attempt + calls.length)
      | some d => .repair outline d.code (validator ((drafts calls).length - 1) d.code).violations := by
  unfold Progress.task
  rw [reflects.judged]
  cases (drafts calls).getLast? with
  | none => rw [reflects.attempt]; rfl
  | some d => rfl

/-- A lesson that lacks only its title. -/
structure Untitled where
  code : Text
  attempts : Int
  usage : List Usage

def Untitled.entitle (lesson : Untitled) (title : Text) : Lesson :=
  ⟨lesson.code, title, lesson.attempts, lesson.usage⟩

/-- What comes of attempts is settled but for the title: a failure, or a lesson that lacks only its title. -/
theorem exists_conclude_eq (validator : Validator) (outline : Text) (p : Progress) :
    ∃ accepted : Except Failure Untitled, ∀ {ask reply : Type} (agents : Agents ask reply),
      conclude agents validator outline p =
        (Dialogue.done accepted).andThen fun lesson =>
          (title agents outline).bind fun t => .done (.ok (lesson.entitle t)) := by
  unfold conclude
  cases p.failure with
  | some e => exact ⟨.error _, fun _ => rfl⟩
  | none =>
    cases p.judged with
    | none => exact ⟨.error _, fun _ => rfl⟩
    | some j =>
      by_cases accepted : j.verdict.isValid = true
      · by_cases again : (validator p.seen j.code).isValid = true
        · refine ⟨.ok ⟨j.code, p.attempt, p.usage⟩, fun _ => ?_⟩
          simp only [accepted, again]
          rfl
        · refine ⟨.error (.pipeline (.validationRejected (validator p.seen j.code).violations p.attempt)), fun _ => ?_⟩
          simp only [accepted, again]
          rfl
      · refine ⟨.error (.pipeline (.validationRejected j.verdict.violations p.attempt)), fun _ => ?_⟩
        simp only [accepted]
        rfl

section Conclusion

variable (agents validator outline) {p : Progress} {j : Judged}

theorem conclude_of_failure {e : Failure} (failed : p.failure = some e) :
    ∃ message, conclude agents validator outline p = .done (.error (.pipeline (.transportFailure message))) := by
  simp only [conclude, failed]
  exact ⟨_, rfl⟩

theorem conclude_of_no_call (unfailed : p.failure = none) (undrafted : p.judged = none) :
    ∃ message, conclude agents validator outline p = .done (.error (.pipeline (.transportFailure message))) := by
  simp only [conclude, unfailed, undrafted]
  exact ⟨_, rfl⟩

theorem conclude_of_rejected (unfailed : p.failure = none) (judged : p.judged = some j)
    (rejected : j.verdict.isValid = false) :
    conclude agents validator outline p =
      .done (.error (.pipeline (.validationRejected j.verdict.violations p.attempt))) := by
  simp [conclude, unfailed, judged, rejected]

theorem conclude_of_withdrawn (unfailed : p.failure = none) (judged : p.judged = some j)
    (accepted : j.verdict.isValid = true) (again : (validator p.seen j.code).isValid = false) :
    conclude agents validator outline p =
      .done (.error (.pipeline (.validationRejected (validator p.seen j.code).violations p.attempt))) := by
  simp [conclude, unfailed, judged, accepted, again]

theorem conclude_of_accepted (unfailed : p.failure = none) (judged : p.judged = some j)
    (accepted : j.verdict.isValid = true) (again : (validator p.seen j.code).isValid = true) :
    conclude agents validator outline p =
      (title agents outline).bind fun t => .done (.ok ⟨j.code, t, p.attempt, p.usage⟩) := by
  simp [conclude, unfailed, judged, accepted, again]

variable {agents validator outline}

/-- Only accepted code becomes a lesson, and it is accepted twice. -/
theorem conclude_ok {heard : List (ask × reply)} {lesson : Lesson}
    (run : (conclude agents validator outline p).Gives heard (.ok lesson)) :
    ∃ j, p.failure = none ∧ p.judged = some j ∧ j.verdict.isValid = true ∧ lesson.code = j.code ∧
      (validator p.seen j.code).isValid = true ∧ (title agents outline).Gives heard lesson.title := by
  cases failed : p.failure with
  | some e =>
    obtain ⟨message, concluded⟩ := conclude_of_failure agents validator outline failed
    rw [concluded] at run
    cases run
  | none =>
    cases judged : p.judged with
    | none =>
      obtain ⟨message, concluded⟩ := conclude_of_no_call agents validator outline failed judged
      rw [concluded] at run
      cases run
    | some j =>
      cases accepted : j.verdict.isValid with
      | false =>
        rw [conclude_of_rejected agents validator outline failed judged accepted] at run
        cases run
      | true =>
        cases again : (validator p.seen j.code).isValid with
        | false =>
          rw [conclude_of_withdrawn agents validator outline failed judged accepted again] at run
          cases run
        | true =>
          rw [conclude_of_accepted agents validator outline failed judged accepted again] at run
          obtain ⟨t, titled, made⟩ := Dialogue.bind_done_gives.mp run
          cases made
          exact ⟨j, rfl, rfl, accepted, rfl, again, titled⟩

end Conclusion

end LessonService.Generation
