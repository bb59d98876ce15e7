import LessonService.Proofs.Generation.Transcript

namespace LessonService.Generation

/-- What happens in a dialogue: a question with its reply, or a wait. -/
inductive Event (ask reply : Type) where
  | asked (question : ask) (reply : reply)
  | waited (seconds : Rat)

namespace Event

variable {ask reply : Type}

def exchange? : Event ask reply → Option (ask × reply)
  | asked q r => some (q, r)
  | waited _ => none

def wait? : Event ask reply → Option Rat
  | asked _ _ => none
  | waited seconds => some seconds

end Event

/-- The questions among events with their replies. -/
def exchangesOf {ask reply : Type} (events : List (Event ask reply)) : List (ask × reply) :=
  events.filterMap Event.exchange?

/-- The delays among events. -/
def delaysOf {ask reply : Type} (events : List (Event ask reply)) : List Rat := events.filterMap Event.wait?

section

variable {ask reply : Type} (first later : List (Event ask reply))

@[simp] theorem exchangesOf_nil : exchangesOf ([] : List (Event ask reply)) = [] := rfl

@[simp] theorem delaysOf_nil : delaysOf ([] : List (Event ask reply)) = [] := rfl

@[simp] theorem exchangesOf_cons_asked (q : ask) (r : reply) :
    exchangesOf (.asked q r :: later) = (q, r) :: exchangesOf later := rfl

@[simp] theorem exchangesOf_cons_waited (seconds : Rat) :
    exchangesOf (.waited seconds :: later) = exchangesOf later := rfl

@[simp] theorem delaysOf_cons_asked (q : ask) (r : reply) : delaysOf (.asked q r :: later) = delaysOf later := rfl

@[simp] theorem delaysOf_cons_waited (seconds : Rat) :
    delaysOf (.waited seconds :: later) = seconds :: delaysOf later := rfl

@[simp] theorem exchangesOf_append : exchangesOf (first ++ later) = exchangesOf first ++ exchangesOf later :=
  List.filterMap_append

@[simp] theorem delaysOf_append : delaysOf (first ++ later) = delaysOf first ++ delaysOf later :=
  List.filterMap_append

end

namespace Dialogue

variable {ask reply α β : Type}

/-- A dialogue that ends with a result, after all that happens in it. -/
inductive Takes : Dialogue ask reply α → List (Event ask reply) → α → Prop
  | done (a : α) : Takes (.done a) [] a
  | ask {q : ask} {next : reply → Dialogue ask reply α} {events : List (Event ask reply)} {a : α} (r : reply) :
      Takes (next r) events a → Takes (.ask q next) (.asked q r :: events) a
  | wait {seconds : Rat} {next : Dialogue ask reply α} {events : List (Event ask reply)} {a : α} :
      Takes next events a → Takes (.wait seconds next) (.waited seconds :: events) a

/-- The replies settle what happens and what comes of it. -/
theorem Takes.unique {p : Dialogue ask reply α} {events others : List (Event ask reply)} {a b : α}
    (run : p.Takes events a) (other : p.Takes others b)
    (same : exchangesOf events <+: exchangesOf others ∨ exchangesOf others <+: exchangesOf events) :
    events = others ∧ a = b := by
  induction run generalizing others with
  | done a =>
    cases other
    exact ⟨rfl, rfl⟩
  | @ask q next events a r rest ih =>
    cases other with
    | @ask _ _ others _ r' rest' =>
      rw [exchangesOf_cons_asked, exchangesOf_cons_asked, List.cons_prefix_cons, List.cons_prefix_cons] at same
      have replied : r = r' := by
        rcases same with ⟨same, _⟩ | ⟨same, _⟩
        · exact congrArg Prod.snd same
        · exact congrArg Prod.snd same.symm
      subst replied
      obtain ⟨events_eq, result_eq⟩ := ih rest' (same.imp And.right And.right)
      exact ⟨by rw [events_eq], result_eq⟩
  | wait rest ih =>
    cases other with
    | wait rest' =>
      obtain ⟨events_eq, result_eq⟩ := ih rest' same
      exact ⟨by rw [events_eq], result_eq⟩

theorem bind_takes {p : Dialogue ask reply α} {f : α → Dialogue ask reply β} {all : List (Event ask reply)} {b : β} :
    (p.bind f).Takes all b ↔
      ∃ first a later, all = first ++ later ∧ p.Takes first a ∧ (f a).Takes later b := by
  induction p generalizing all with
  | done a =>
    constructor
    · exact fun run => ⟨[], a, all, rfl, .done a, run⟩
    · intro ⟨first, a, later, split, ended, run⟩
      cases ended
      rwa [split]
  | ask q next ih =>
    constructor
    · intro run
      cases run with
      | ask r rest =>
        obtain ⟨first, a, later, rfl, ended, run⟩ := (ih r).mp rest
        exact ⟨.asked q r :: first, a, later, rfl, .ask r ended, run⟩
    · intro ⟨first, a, later, split, ended, run⟩
      cases ended with
      | ask r rest =>
        rw [split]
        exact .ask r ((ih r).mpr ⟨_, a, later, rfl, rest, run⟩)
  | wait seconds next ih =>
    constructor
    · intro run
      cases run with
      | wait rest =>
        obtain ⟨first, a, later, rfl, ended, run⟩ := ih.mp rest
        exact ⟨.waited seconds :: first, a, later, rfl, .wait ended, run⟩
    · intro ⟨first, a, later, split, ended, run⟩
      cases ended with
      | wait rest =>
        rw [split]
        exact .wait (ih.mpr ⟨_, a, later, rfl, rest, run⟩)

/-- Going on with a result without asking or waiting adds nothing to what happens. -/
theorem bind_takes_of_done {p : Dialogue ask reply α} {f : α → Dialogue ask reply β} {all : List (Event ask reply)}
    {b : β} (silent : ∀ a, ∃ c, f a = .done c) (run : (p.bind f).Takes all b) : ∃ a, p.Takes all a := by
  obtain ⟨first, a, later, rfl, ended, rest⟩ := bind_takes.mp run
  obtain ⟨c, ends⟩ := silent a
  rw [ends] at rest
  cases rest
  exact ⟨a, by rwa [List.append_nil]⟩

theorem andThen_takes_of_done {p : Dialogue ask reply (Except Failure α)}
    {f : α → Dialogue ask reply (Except Failure β)} {all : List (Event ask reply)} {b : Except Failure β}
    (silent : ∀ a, ∃ c, f a = .done c) (run : (p.andThen f).Takes all b) : ∃ a, p.Takes all a := by
  refine bind_takes_of_done ?_ run
  intro result
  cases result with
  | ok a => exact silent a
  | error e => exact ⟨.error e, rfl⟩

end Dialogue

end LessonService.Generation
