import LessonService.Generation.Dialogue

namespace LessonService.Generation.Dialogue

variable {ask reply α β σ : Type}

/-- A dialogue that ends with a result, after questions with their replies. -/
inductive Gives : Dialogue ask reply α → List (ask × reply) → α → Prop
  | done (a : α) : Gives (.done a) [] a
  | ask {q : ask} {next : reply → Dialogue ask reply α} {exchanges : List (ask × reply)} {a : α} (r : reply) :
      Gives (next r) exchanges a → Gives (.ask q next) ((q, r) :: exchanges) a
  | wait {seconds : Rat} {next : Dialogue ask reply α} {exchanges : List (ask × reply)} {a : α} :
      Gives next exchanges a → Gives (.wait seconds next) exchanges a

/-- The questions that are replied to before the deadline, with their replies. -/
def exchanges (responder : Responder ask reply σ) (deadline : Option Rat) (state : σ) :
    Dialogue ask reply α → List (ask × reply)
  | done _ => []
  | .ask q next =>
    let (seconds, reply, state) := responder.respond state q
    if passes deadline seconds then []
    else (q, reply) :: (next reply).exchanges responder (deadline.map (· - seconds)) state
  | wait seconds next =>
    if passes deadline seconds then []
    else next.exchanges responder (deadline.map (· - seconds)) state

variable {responder : Responder ask reply σ} {deadline : Option Rat} {state : σ}

theorem follow_gives (p : Dialogue ask reply α) {a : α} (ended : (p.follow responder deadline state).result = some a) :
    p.Gives (p.exchanges responder deadline state) a := by
  induction p generalizing deadline state with
  | done b =>
    cases Option.some.inj ended
    exact .done a
  | ask q next ih =>
    simp only [follow] at ended
    simp only [exchanges]
    split at ended
    · cases ended
    · rename_i inTime
      rw [if_neg inTime]
      exact .ask _ (ih _ ended)
  | wait seconds next ih =>
    simp only [follow] at ended
    simp only [exchanges]
    split at ended
    · cases ended
    · rename_i inTime
      rw [if_neg inTime]
      exact .wait (ih ended)

/-- Without a deadline every dialogue comes to an end. -/
theorem exists_follow_result (p : Dialogue ask reply α) (responder : Responder ask reply σ) (state : σ) :
    ∃ a, (p.follow responder none state).result = some a := by
  have never (seconds : Rat) : passes none seconds = false := by simp [passes]
  induction p generalizing state with
  | done a => exact ⟨a, rfl⟩
  | ask q next ih =>
    simp only [follow, never, Option.map_none]
    exact ih _ _
  | wait seconds next ih =>
    simp only [follow, never, Option.map_none]
    exact ih state

theorem done_gives {a b : α} {all : List (ask × reply)} :
    (done a : Dialogue ask reply α).Gives all b ↔ all = [] ∧ b = a := by
  constructor
  · intro run
    cases run
    exact ⟨rfl, rfl⟩
  · intro ⟨silent, same⟩
    rw [silent, same]
    exact .done a

theorem bind_assoc {γ : Type} (p : Dialogue ask reply α) (f : α → Dialogue ask reply β) (g : β → Dialogue ask reply γ) :
    (p.bind f).bind g = p.bind fun a => (f a).bind g := by
  induction p with
  | done a => rfl
  | ask q next ih => simp only [bind, ih]
  | wait seconds next ih => simp only [bind, ih]

theorem bind_gives {p : Dialogue ask reply α} {f : α → Dialogue ask reply β} {all : List (ask × reply)} {b : β} :
    (p.bind f).Gives all b ↔
      ∃ first a later, all = first ++ later ∧ p.Gives first a ∧ (f a).Gives later b := by
  induction p generalizing all with
  | done a =>
    constructor
    · exact fun run => ⟨[], a, all, rfl, .done a, run⟩
    · rintro ⟨first, a, later, rfl, ended, run⟩
      cases ended
      exact run
  | ask q next ih =>
    constructor
    · intro run
      cases run with
      | ask r rest =>
        obtain ⟨first, a, later, rfl, ended, run⟩ := (ih r).mp rest
        exact ⟨(q, r) :: first, a, later, rfl, .ask r ended, run⟩
    · rintro ⟨first, a, later, rfl, ended, run⟩
      cases ended with
      | ask r rest => exact .ask r ((ih r).mpr ⟨_, a, later, rfl, rest, run⟩)
  | wait seconds next ih =>
    constructor
    · intro run
      cases run with
      | wait rest =>
        obtain ⟨first, a, later, rfl, ended, run⟩ := ih.mp rest
        exact ⟨first, a, later, rfl, .wait ended, run⟩
    · rintro ⟨first, a, later, rfl, ended, run⟩
      cases ended with
      | wait rest => exact .wait (ih.mpr ⟨first, a, later, rfl, rest, run⟩)

theorem bind_done_gives {p : Dialogue ask reply α} {f : α → β} {all : List (ask × reply)} {b : β} :
    (p.bind fun a => .done (f a)).Gives all b ↔ ∃ a, p.Gives all a ∧ f a = b := by
  rw [bind_gives]
  constructor
  · rintro ⟨first, a, later, rfl, run, ended⟩
    cases ended
    exact ⟨a, by rwa [List.append_nil], rfl⟩
  · rintro ⟨a, run, rfl⟩
    exact ⟨all, a, [], (List.append_nil all).symm, run, .done _⟩

/-- What comes of going on with a result: the failure before it, or what comes of the rest. -/
theorem andThen_gives {p : Dialogue ask reply (Except Failure α)} {f : α → Dialogue ask reply (Except Failure β)}
    {all : List (ask × reply)} {result : Except Failure β} (run : (p.andThen f).Gives all result) :
    (∃ e, p.Gives all (.error e) ∧ result = .error e) ∨
      ∃ first a later, all = first ++ later ∧ p.Gives first (.ok a) ∧ (f a).Gives later result := by
  obtain ⟨first, outcome, later, rfl, ended, rest⟩ := bind_gives.mp run
  cases outcome with
  | error e =>
    cases rest
    exact .inl ⟨e, by simpa using ended, rfl⟩
  | ok a => exact .inr ⟨first, a, later, rfl, ended, rest⟩

end LessonService.Generation.Dialogue
