import LessonService.Proofs.Generation.Attempts

namespace LessonService.Generation

variable {plan : Plan} {q : Question} {heard : List (Question × Except Failure Answer)}

/-- What is heard while one question is put, with the reply that ends it. -/
structure Concerns (q : Question) (heard : List (Question × Except Failure Answer)) (last : Except Failure Answer) :
    Prop where
  asked : ∀ exchange ∈ heard, exchange.1 = q
  ended : heard.getLast? = some (q, last)

theorem retry_concerns {delays : List Rat} {reply : Except Failure Answer}
    (run : (Dialogue.retry delays (.ask q .done)).Gives heard reply) : Concerns q heard reply := by
  induction delays generalizing heard with
  | nil =>
    cases run with
    | ask _ rest =>
      cases rest
      exact ⟨by simp, rfl⟩
  | cons delay delays ih =>
    obtain ⟨first, outcome, later, rfl, asked, rest⟩ := Dialogue.bind_gives.mp run
    cases asked with
    | ask _ ended =>
      cases ended
      cases outcome with
      | ok answer =>
        cases rest
        exact ⟨by simp, rfl⟩
      | error e =>
        by_cases quota : e.isQuotaError = true
        · simp only [quota, if_true] at rest
          cases rest with
          | wait again =>
            have concerns := ih again
            exact ⟨by simpa using concerns.asked, by simp [List.getLast?_cons, concerns.ended]⟩
        · simp only [quota] at rest
          cases rest
          exact ⟨by simp, rfl⟩

theorem call_concerns {outcome : Except Failure Answer} (run : (call plan q).Gives heard outcome) :
    ∃ reply, Concerns q heard reply ∧ ∀ answer, outcome = .ok answer → reply = .ok answer := by
  rcases Dialogue.andThen_gives run with ⟨e, failed, rfl⟩ | ⟨first, answer, later, rfl, replied, rest⟩
  · exact ⟨.error e, retry_concerns failed, fun _ made => made⟩
  · have silent : later = [] ∧ ∀ given, outcome = .ok given → given = answer := by
      by_cases blank : Text.isBlank answer.content = true
      · simp only [blank, if_true] at rest
        cases rest
        exact ⟨rfl, by simp⟩
      · simp only [blank] at rest
        cases rest
        exact ⟨rfl, fun given made => (Except.ok.inj made).symm⟩
    rw [silent.1, List.append_nil]
    exact ⟨.ok answer, retry_concerns replied, fun given made => by rw [silent.2 given made]⟩

/-- A draft is the cleaned text of the last reply to the question for it. -/
theorem draft_concerns {task : Task} {outcome : Except Failure Draft}
    (run : (plan.agents.draft task).Gives heard outcome) :
    ∃ reply, Concerns task.question heard reply ∧ ∀ d, outcome = .ok d →
      ∃ answer, reply = .ok answer ∧ d = ⟨cleanCode answer.content, answer.usage⟩ := by
  rcases Dialogue.andThen_gives run with ⟨e, failed, rfl⟩ | ⟨first, answer, later, rfl, called, rest⟩
  · obtain ⟨reply, concerns, _⟩ := call_concerns failed
    exact ⟨reply, concerns, by simp⟩
  · obtain ⟨reply, concerns, same⟩ := call_concerns called
    cases rest
    rw [List.append_nil]
    exact ⟨reply, concerns, fun d made => ⟨answer, same answer rfl, (Except.ok.inj made).symm⟩⟩

theorem Task.question_role_ne (task : Task) : task.question.role ≠ .titler := by
  cases task <;> simp [question]

theorem title_role {outline t : Text} (run : (title plan.agents outline).Gives heard t) :
    ∀ exchange ∈ heard, exchange.1.role = .titler := by
  cases titled : plan.hasTitler with
  | false =>
    simp only [title, Plan.agents, titled] at run
    cases run
    simp
  | true =>
    simp only [title, Plan.agents, titled] at run
    obtain ⟨first, outcome, later, rfl, asked, rest⟩ := Dialogue.bind_gives.mp run
    have silent : later = [] := by cases outcome <;> cases rest <;> rfl
    rw [silent, List.append_nil]
    intro exchange member
    rcases Dialogue.andThen_gives asked with ⟨e, failed, _⟩ | ⟨before, answer, after, rfl, called, ended⟩
    · obtain ⟨reply, concerns, _⟩ := call_concerns failed
      rw [concerns.asked exchange member]
    · obtain ⟨reply, concerns, _⟩ := call_concerns called
      cases ended
      rw [List.append_nil] at member
      rw [concerns.asked exchange member]

theorem Made.role_ne {calls : List AgentCall} (made : Made plan.agents calls heard) :
    ∀ exchange ∈ heard, exchange.1.role ≠ .titler := by
  induction made with
  | none => simp
  | @next call calls first later called _ ih =>
    intro exchange member
    rcases List.mem_append.mp member with early | late
    · obtain ⟨reply, concerns, _⟩ := draft_concerns called
      rw [concerns.asked exchange early]
      exact call.task.question_role_ne
    · exact ih exchange late

end LessonService.Generation
