import LessonService.Proofs.Generation.Attempts
import Mathlib.Data.List.Basic

namespace LessonService.Generation

variable {ask reply σ : Type} {agents : Agents ask reply} {judge : Text → Verdict} {maxAttempts : Int} {r : Request}
  {calls : List AgentCall}

/-- The calls that are made for a request, given what comes of each. -/
structure RepairCalls (judge : Text → Verdict) (maxAttempts : Int) (r : Request) (calls : List AgentCall) :
    Prop where
  bounded : (calls.length : Int) ≤ max 0 (maxAttempts - r.attempt)
  /-- Only an accepted draft ends the calls before the last attempt. -/
  exhausted : (∀ call ∈ calls, call.isAccepted judge = false) →
    (calls.length : Int) = max 0 (maxAttempts - r.attempt)
  stopped : ∀ call ∈ calls.dropLast, call.isAccepted judge = false
  written : ∀ first call rest, calls = first ++ call :: rest →
    ((∃ attempt, call.task = .write r.outline attempt) ↔ drafts first = [])
  repaired : ∀ first call rest d, calls = first ++ call :: rest → (drafts first).getLast? = some d →
    call.task = .repair r.outline d.code (judge d.code).violations

/-- What comes of the calls that are made for a request. -/
structure RepairResult (judge : Text → Verdict) (maxAttempts : Int) (r : Request) (calls : List AgentCall)
    (result : Except Failure Lesson) : Prop where
  made : (∃ lesson, result = .ok lesson) ↔ ∃ call ∈ calls, call.isAccepted judge = true
  counted : ∀ lesson, result = .ok lesson →
    lesson.attempts = r.attempt + calls.length ∧ lesson.usage = usages (drafts calls) ∧
      (drafts calls).getLast?.map Draft.code = some lesson.code
  unreached : (∃ message, result = .error (.pipeline (.transportFailure message))) ↔
    calls = [] ∨ ∃ call e, calls.getLast? = some call ∧ call.outcome = .error e
  rejected : (∀ lesson, result ≠ .ok lesson) → (∀ message, result ≠ .error (.pipeline (.transportFailure message))) →
    ∃ d, (drafts calls).getLast? = some d ∧
      result = .error (.pipeline (.validationRejected (judge d.code).violations maxAttempts))

theorem after_concat_isAccepted (p : Progress) (first : List AgentCall) (call : AgentCall) :
    (p.after (fun _ => judge) (first ++ [call])).isAccepted = call.isAccepted judge := by
  rw [Progress.after_concat]
  cases outcome : call.outcome <;>
    simp [Progress.advance, Progress.failed, Progress.drafted, Progress.isAccepted, AgentCall.isAccepted, outcome]

theorem attempts_repairCalls {heard : List (ask × reply)} {last : Progress}
    (run : (attempts agents (fun _ => judge) r.outline (maxAttempts - r.attempt).toNat
      { attempt := r.attempt }).Gives heard last) :
    ∃ calls, Made agents calls heard ∧ last.Reflects (fun _ => judge) r.attempt calls ∧
      RepairCalls judge maxAttempts r calls := by
  obtain ⟨calls, made, rfl, bounded, exhausted, steps⟩ := attempts_gives run
  have task (first : List AgentCall) (call : AgentCall) (rest : List AgentCall) (split : calls = first ++ call :: rest) :=
    (steps first call rest split).1.trans ((Progress.after_reflects _ _ first).task_eq r.outline)
  refine ⟨calls, made, Progress.after_reflects _ _ calls, ⟨by omega, ?_, ?_, ?_, ?_⟩⟩
  · intro rejected
    have all := exhausted (by
      rcases List.eq_nil_or_concat' calls with rfl | ⟨first, call, rfl⟩
      · rfl
      · rw [after_concat_isAccepted]
        exact rejected call (by simp))
    omega
  · intro call member
    obtain ⟨first, rest, split⟩ := List.append_of_mem member
    rcases List.eq_nil_or_concat' calls with rfl | ⟨before, final, rfl⟩
    · cases member
    · rw [List.dropLast_concat] at split
      have early := (steps first call (rest ++ [final]) (by rw [split]; simp)).2 (by simp)
      rwa [after_concat_isAccepted] at early
  · intro first call rest split
    rw [task first call rest split]
    cases last : (drafts first).getLast? with
    | none => simp [List.getLast?_eq_none_iff.mp last]
    | some d =>
      have drafted : drafts first ≠ [] := fun empty => by simp [empty] at last
      simp [drafted]
  · intro first call rest d split last
    rw [task first call rest split, last]

namespace RepairResult

theorem of_unreached (message : Text) (rejected : ∀ call ∈ calls, call.isAccepted judge = false)
    (unreached : calls = [] ∨ ∃ call e, calls.getLast? = some call ∧ call.outcome = .error e) :
    RepairResult judge maxAttempts r calls (.error (.pipeline (.transportFailure message))) where
  made := by simpa using rejected
  counted := by simp
  unreached := by simpa using unreached
  rejected _ reached := absurd rfl (reached message)

variable {first : List AgentCall} {call : AgentCall} {d : Draft}

theorem of_rejected (drafted : call.outcome = .ok d)
    (rejected : ∀ before ∈ first ++ [call], before.isAccepted judge = false) :
    RepairResult judge maxAttempts r (first ++ [call])
      (.error (.pipeline (.validationRejected (judge d.code).violations maxAttempts))) where
  made := by simpa [or_imp, forall_and] using rejected
  counted := by simp
  unreached := by simp [drafted]
  rejected _ _ := ⟨d, by rw [drafts_concat_ok first drafted, List.getLast?_concat], rfl⟩

theorem of_accepted (t : Text) (drafted : call.outcome = .ok d) (accepted : (judge d.code).isValid = true) :
    RepairResult judge maxAttempts r (first ++ [call])
      (.ok ⟨d.code, t, r.attempt + (first ++ [call]).length, usages (drafts (first ++ [call]))⟩) where
  made := by simp [AgentCall.isAccepted, drafted, accepted]
  counted lesson made := by
    cases made
    exact ⟨rfl, rfl, by rw [drafts_concat_ok first drafted, List.getLast?_concat, Option.map_some]⟩
  unreached := by simp [drafted]
  rejected failed := absurd rfl (failed _)

end RepairResult

/-- What is concluded from calls. Only after an accepted draft is anything asked, and that is for the title. -/
theorem RepairCalls.conclude {p : Progress} {later : List (ask × reply)} {result : Except Failure Lesson}
    (spec : RepairCalls judge maxAttempts r calls) (reflects : p.Reflects (fun _ => judge) r.attempt calls)
    (run : (conclude agents (fun _ => judge) r.outline p).Gives later result) :
    RepairResult judge maxAttempts r calls result ∧ (∀ e, result = .error e → later = []) ∧
      ∀ lesson, result = .ok lesson → (title agents r.outline).Gives later lesson.title := by
  rcases List.eq_nil_or_concat' calls with rfl | ⟨first, call, rfl⟩
  · obtain ⟨message, concluded⟩ :=
      conclude_of_no_call agents (fun _ => judge) r.outline (reflects.failure.trans rfl) (reflects.judged.trans rfl)
    rw [concluded] at run
    cases run
    exact ⟨.of_unreached message (by simp) (.inl rfl), by simp, by simp⟩
  have rejected (last : call.isAccepted judge = false) :
      ∀ before ∈ first ++ [call], before.isAccepted judge = false := by
    simpa [or_imp, forall_and, last] using spec.stopped
  cases outcome : call.outcome with
  | error e =>
    have failed : p.failure = some e := by rw [reflects.failure]; simp [AgentCall.failure?, outcome]
    obtain ⟨message, concluded⟩ := conclude_of_failure agents (fun _ => judge) r.outline failed
    rw [concluded] at run
    cases run
    have last : call.isAccepted judge = false := by simp [AgentCall.isAccepted, outcome]
    exact ⟨.of_unreached message (rejected last) (.inr ⟨call, e, List.getLast?_concat, outcome⟩), by simp, by simp⟩
  | ok d =>
    have judged : p.judged = some ⟨d.code, judge d.code⟩ := by
      rw [reflects.judged, drafts_concat_ok first outcome, List.getLast?_concat]; rfl
    have unfailed : p.failure = none := by rw [reflects.failure]; simp [AgentCall.failure?, outcome]
    cases accepted : (judge d.code).isValid with
    | false =>
      rw [conclude_of_rejected _ _ _ unfailed judged accepted] at run
      cases run
      have last : call.isAccepted judge = false := by simp [AgentCall.isAccepted, outcome, accepted]
      -- All attempts have been made, so that the count of them is the most there may be.
      have all : p.attempt = maxAttempts := by
        have counted := spec.exhausted (rejected last)
        have length : (first ++ [call]).length = first.length + 1 := by simp
        rw [reflects.attempt]
        omega
      rw [all]
      exact ⟨.of_rejected outcome (rejected last), by simp, by simp⟩
    | true =>
      rw [conclude_of_accepted _ _ _ unfailed judged accepted accepted] at run
      obtain ⟨t, titled, rfl⟩ := Dialogue.bind_done_gives.mp run
      rw [reflects.attempt, reflects.usage]
      refine ⟨.of_accepted t outcome accepted, by simp, ?_⟩
      intro lesson made
      cases made
      exact titled

/-- The loop of drafts and repairs comes to an end for every sequence of replies, as `RepairCalls` and
`RepairResult` say. -/
theorem orchestrate_calls (agents : Agents ask reply) (judge : Text → Verdict) (maxAttempts : Int) (r : Request)
    (responder : Dialogue.Responder ask reply σ) (state : σ) :
    let run := orchestrate agents (fun _ => judge) maxAttempts r
    ∃ calls heard later result,
      (run.follow responder none state).result = some result ∧
      run.exchanges responder none state = heard ++ later ∧ Made agents calls heard ∧
      RepairCalls judge maxAttempts r calls ∧ RepairResult judge maxAttempts r calls result ∧
      (∀ e, result = .error e → later = []) ∧
      ∀ lesson, result = .ok lesson → (title agents r.outline).Gives later lesson.title := by
  intro run
  obtain ⟨result, ended⟩ := run.exists_follow_result responder state
  obtain ⟨heard, p, later, split, attempted, concluded⟩ := Dialogue.bind_gives.mp (run.follow_gives ended)
  obtain ⟨calls, made, reflects, spec⟩ := attempts_repairCalls attempted
  exact ⟨calls, heard, later, result, ended, split, made, spec, spec.conclude reflects concluded⟩

end LessonService.Generation
