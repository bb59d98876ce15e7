import LessonService.Proofs.Generation.Replies
import LessonService.Proofs.Generation.Waiting
import Mathlib.Algebra.Order.BigOperators.Group.List
import Mathlib.Algebra.Order.Ring.Rat
import Mathlib.Tactic.NormNum

namespace LessonService.Generation

/-- A call that is made once: what happens in it, and what comes of it. -/
structure Run {ask reply α : Type} (p : Dialogue ask reply (Except Failure α)) where
  events : List (Event ask reply)
  outcome : Except Failure α
  takes : p.Takes events outcome

namespace Run

variable {ask reply α : Type} {p : Dialogue ask reply (Except Failure α)}

def wantsQuota (run : Run p) : Bool :=
  match run.outcome with
  | .ok _ => false
  | .error e => e.isQuotaError

/-- After how many of the calls another one is made: those that fail for want of quota before any other, and no
more than there are delays. -/
def repeats (delays : List Rat) (runs : List (Run p)) : Nat := min (runs.takeWhile wantsQuota).length delays.length

/-- Calls with a delay after each. -/
def delayed (delays : List Rat) (runs : List (Run p)) : List (Event ask reply) :=
  (runs.zip delays).flatMap fun (run, delay) => run.events ++ [.waited delay]

variable {delay : Rat} {delays : List Rat} {run : Run p} {runs : List (Run p)}

theorem repeats_le : repeats delays runs ≤ delays.length := Nat.min_le_right ..

theorem length_take_repeats : (delays.take (repeats delays runs)).length = repeats delays runs := by
  rw [List.length_take]
  exact Nat.min_eq_left repeats_le

theorem repeats_nil : repeats [] runs = 0 := Nat.min_zero _

theorem repeats_of_not_wantsQuota (final : run.wantsQuota = false) : repeats delays (run :: runs) = 0 := by
  rw [repeats, List.takeWhile_cons_of_neg (by simp [final]), List.length_nil, Nat.zero_min]

theorem repeats_of_wantsQuota (wants : run.wantsQuota = true) :
    repeats (delay :: delays) (run :: runs) = repeats delays runs + 1 := by
  rw [repeats, repeats, List.takeWhile_cons_of_pos wants, List.length_cons, List.length_cons]
  omega

theorem delayed_nil : delayed [] runs = [] := by rw [delayed, List.zip_nil_right, List.flatMap_nil]

theorem delayed_cons :
    delayed (delay :: delays) (run :: runs) = run.events ++ .waited delay :: delayed delays runs := by
  simp [delayed]

theorem exchangesOf_delayed (delays : List Rat) (runs : List (Run p)) :
    exchangesOf (delayed delays runs) = (runs.take delays.length).flatMap fun run => exchangesOf run.events := by
  induction delays generalizing runs with
  | nil => rw [delayed_nil, List.length_nil, List.take_zero, exchangesOf_nil, List.flatMap_nil]
  | cons delay delays ih =>
    cases runs with
    | nil => rfl
    | cons run runs =>
      rw [delayed_cons, exchangesOf_append, exchangesOf_cons_waited, ih, List.length_cons, List.take_succ_cons,
        List.flatMap_cons]

end Run

namespace Dialogue

variable {ask reply α : Type} {p : Dialogue ask reply (Except Failure α)} {delay : Rat} {delays : List Rat}
  {events : List (Event ask reply)} {outcome : Except Failure α}

open Run

/-- A call that may be repeated is made once, and repeated after the delay if it wants quota. -/
theorem retry_cons_takes_iff :
    (retry (delay :: delays) p).Takes events outcome ↔
      ∃ run : Run p,
        (run.wantsQuota = false ∧ events = run.events ∧ outcome = run.outcome) ∨
        (run.wantsQuota = true ∧ ∃ later, events = run.events ++ .waited delay :: later ∧
          (retry delays p).Takes later outcome) := by
  constructor
  · intro taken
    obtain ⟨first, result, later, rfl, called, rest⟩ := bind_takes.mp taken
    refine ⟨⟨first, result, called⟩, ?_⟩
    cases result with
    | ok a =>
      cases rest
      exact .inl ⟨rfl, List.append_nil _, rfl⟩
    | error e =>
      by_cases quota : e.isQuotaError = true
      · simp only [quota, if_true] at rest
        cases rest with
        | wait again => exact .inr ⟨quota, _, rfl, again⟩
      · simp only [quota] at rest
        cases rest
        exact .inl ⟨eq_false_of_ne_true quota, List.append_nil _, rfl⟩
  · intro ⟨⟨first, result, called⟩, made⟩
    rw [retry, bind_takes]
    rcases made with ⟨final, split, ended⟩ | ⟨wants, later, split, again⟩
    · refine ⟨first, result, [], by rw [split, List.append_nil], called, ?_⟩
      rw [ended]
      cases result with
      | ok a => exact .done _
      | error e =>
        have quota : e.isQuotaError = false := final
        simp only [quota]
        exact .done _
    · refine ⟨first, result, .waited delay :: later, split, called, ?_⟩
      cases result with
      | ok a => cases wants
      | error e =>
        have quota : e.isQuotaError = true := wants
        simp only [quota, if_true]
        exact .wait again

/-- The runs of calls with delays are those in which the calls that want quota come first, each followed by the
delay that is next, and the last call settles what comes of them. -/
theorem retry_takes_iff :
    (retry delays p).Takes events outcome ↔
      ∃ (runs : List (Run p)) (last : Run p), runs[repeats delays runs]? = some last ∧
        events = delayed (delays.take (repeats delays runs)) runs ++ last.events ∧ outcome = last.outcome := by
  induction delays generalizing events with
  | nil =>
    constructor
    · intro taken
      refine ⟨[⟨events, outcome, taken⟩], ⟨events, outcome, taken⟩, ?_, ?_, rfl⟩
      · rw [repeats_nil, List.getElem?_cons_zero]
      · rw [List.take_nil, delayed_nil, List.nil_append]
    · intro ⟨runs, last, _, split, ended⟩
      rw [List.take_nil, delayed_nil, List.nil_append] at split
      rw [split, ended]
      exact last.takes
  | cons delay delays ih =>
    rw [retry_cons_takes_iff]
    constructor
    · intro ⟨run, made⟩
      rcases made with ⟨final, rfl, rfl⟩ | ⟨wants, later, rfl, again⟩
      · refine ⟨[run], run, ?_, ?_, rfl⟩
        · rw [repeats_of_not_wantsQuota final, List.getElem?_cons_zero]
        · rw [repeats_of_not_wantsQuota final, List.take_zero, delayed_nil, List.nil_append]
      · obtain ⟨runs, last, atLast, split, ended⟩ := ih.mp again
        refine ⟨run :: runs, last, ?_, ?_, ended⟩
        · rw [repeats_of_wantsQuota wants, List.getElem?_cons_succ, atLast]
        · rw [repeats_of_wantsQuota wants, List.take_succ_cons, delayed_cons, split]
          simp
    · intro ⟨runs, last, atLast, split, ended⟩
      cases runs with
      | nil => cases atLast
      | cons run runs =>
        refine ⟨run, ?_⟩
        by_cases wants : run.wantsQuota = true
        · rw [repeats_of_wantsQuota wants, List.getElem?_cons_succ] at atLast
          rw [repeats_of_wantsQuota wants, List.take_succ_cons, delayed_cons, List.append_assoc,
            List.cons_append] at split
          exact .inr ⟨wants, _, split, ih.mpr ⟨runs, last, atLast, rfl, ended⟩⟩
        · have final := eq_false_of_ne_true wants
          rw [repeats_of_not_wantsQuota final, List.getElem?_cons_zero, Option.some.injEq] at atLast
          rw [repeats_of_not_wantsQuota final, List.take_zero, delayed_nil, List.nil_append, ← atLast] at split
          exact .inl ⟨final, split, by rw [ended, atLast]⟩

/-- Calls that go one way and are enough leave one run, whatever the replies after them. -/
theorem retry_takes_of_runs (runs : List (Run p)) (enough : delays.length < runs.length)
    (heard : exchangesOf events <+: runs.flatMap fun run => exchangesOf run.events) :
    ∃ last, runs[repeats delays runs]? = some last ∧
      ((retry delays p).Takes events outcome ↔
        events = delayed (delays.take (repeats delays runs)) runs ++ last.events ∧ outcome = last.outcome) := by
  have inside : repeats delays runs < runs.length := lt_of_le_of_lt repeats_le enough
  obtain ⟨last, atLast⟩ : ∃ last, runs[repeats delays runs]? = some last := ⟨_, List.getElem?_eq_getElem inside⟩
  refine ⟨last, atLast, ?_⟩
  have taken := retry_takes_iff.mpr ⟨runs, last, atLast, rfl, rfl⟩
  constructor
  · intro other
    have replies : exchangesOf (delayed (delays.take (repeats delays runs)) runs ++ last.events)
        <+: runs.flatMap fun run => exchangesOf run.events := by
      rw [exchangesOf_append, exchangesOf_delayed, length_take_repeats]
      refine ⟨(runs.drop (repeats delays runs + 1)).flatMap fun run => exchangesOf run.events, ?_⟩
      conv_rhs => rw [← List.take_append_drop (repeats delays runs + 1) runs, List.take_add_one, atLast]
      simp
    exact other.unique taken (List.prefix_or_prefix_of_prefix heard replies)
  · intro ⟨split, ended⟩
    rw [split, ended]
    exact taken

end Dialogue

/-- What happens while a call keeps to delays: each wait stands before another question, and the waits are the
first of the delays. -/
structure KeepsTo {ask reply : Type} (delays : List Rat) (events : List (Event ask reply)) : Prop where
  asked : (exchangesOf events).length ≤ (delaysOf events).length + 1
  waited : delaysOf events <+: delays

namespace KeepsTo

variable {ask reply : Type} {delays : List Rat} {events : List (Event ask reply)}

theorem nil : KeepsTo delays ([] : List (Event ask reply)) := ⟨Nat.zero_le _, List.nil_prefix⟩

theorem asked_le (keeps : KeepsTo delays events) : (exchangesOf events).length ≤ delays.length + 1 := by
  have bound := keeps.waited.length_le
  have asked := keeps.asked
  omega

theorem waited_le (keeps : KeepsTo delays events) (sensible : ∀ delay ∈ delays, 0 ≤ delay) :
    (delaysOf events).sum ≤ delays.sum :=
  keeps.waited.sublist.sum_le_sum sensible

end KeepsTo

section Calls

variable {ask reply α : Type} {q : ask}

/-- A call that puts one question, with a reply. -/
theorem Run.events_of_ask {next : reply → Except Failure α}
    (run : Run (Dialogue.ask q fun r => .done (next r))) : ∃ r, run.events = [.asked q r] := by
  obtain ⟨events, outcome, takes⟩ := run
  cases takes with
  | ask r rest =>
    cases rest
    exact ⟨r, rfl⟩

theorem delayed_keepsTo {next : reply → Except Failure α} (delays : List Rat)
    (runs : List (Run (Dialogue.ask q fun r => .done (next r)))) (enough : delays.length ≤ runs.length) :
    (exchangesOf (Run.delayed delays runs)).length = delays.length ∧ delaysOf (Run.delayed delays runs) = delays := by
  induction delays generalizing runs with
  | nil => rw [Run.delayed_nil]; exact ⟨rfl, rfl⟩
  | cons delay delays ih =>
    cases runs with
    | nil => simp at enough
    | cons run runs =>
      obtain ⟨asked, waited⟩ := ih runs (by simpa using enough)
      obtain ⟨r, events⟩ := run.events_of_ask
      rw [Run.delayed_cons, events]
      constructor
      · simpa using asked
      · simpa using waited

theorem retry_keepsTo {delays : List Rat} {events : List (Event ask (Except Failure α))}
    {outcome : Except Failure α} (run : (Dialogue.retry delays (.ask q .done)).Takes events outcome) :
    KeepsTo delays events := by
  obtain ⟨runs, last, atLast, split, _⟩ := Dialogue.retry_takes_iff.mp run
  have inside : Run.repeats delays runs < runs.length := (List.getElem?_eq_some_iff.mp atLast).1
  have counted : (delays.take (Run.repeats delays runs)).length = Run.repeats delays runs := Run.length_take_repeats
  obtain ⟨asked, waited⟩ := delayed_keepsTo (delays.take (Run.repeats delays runs)) runs (by omega)
  obtain ⟨r, final⟩ := last.events_of_ask
  rw [counted] at asked
  have heard : (exchangesOf events).length = Run.repeats delays runs + 1 := by simp [split, final, asked]
  have between : delaysOf events = delays.take (Run.repeats delays runs) := by simp [split, final, waited]
  constructor
  · rw [heard, between, counted]
  · rw [between]
    exact List.take_prefix ..

end Calls

section Lessons

variable {plan : Plan} {r : Request} {events : List (Event Question (Except Failure Answer))}

theorem call_keepsTo {q : Question} {outcome : Except Failure Answer} (run : (call plan q).Takes events outcome) :
    KeepsTo plan.delays events := by
  obtain ⟨reply, retried⟩ : ∃ reply, (Dialogue.retry plan.delays (.ask q .done)).Takes events reply := by
    refine Dialogue.andThen_takes_of_done (fun answer => ?_) run
    by_cases blank : Text.isBlank answer.content = true
    · exact ⟨_, if_pos blank⟩
    · exact ⟨_, if_neg blank⟩
  exact retry_keepsTo retried

theorem draft_keepsTo {task : Task} {outcome : Except Failure Draft}
    (run : (plan.agents.draft task).Takes events outcome) : KeepsTo plan.delays events := by
  obtain ⟨reply, called⟩ := Dialogue.andThen_takes_of_done (fun _ => ⟨_, rfl⟩) run
  exact call_keepsTo called

theorem title_keepsTo {outline t : Text} (run : (title plan.agents outline).Takes events t) :
    KeepsTo plan.delays events := by
  cases titled : plan.hasTitler with
  | false =>
    simp only [title, Plan.agents, titled] at run
    cases run
    exact .nil
  | true =>
    simp only [title, Plan.agents, titled] at run
    obtain ⟨outcome, asked⟩ := Dialogue.bind_takes_of_done (fun outcome => by cases outcome <;> exact ⟨_, rfl⟩) run
    obtain ⟨reply, called⟩ := Dialogue.andThen_takes_of_done (fun _ => ⟨_, rfl⟩) asked
    exact call_keepsTo called

/-- What happens in attempts is what happens in calls of the agent, one after the other, and there are no more of
them than there may be. -/
theorem attempts_takes {ask reply : Type} {agents : Agents ask reply} {validator : Validator} {outline : Text}
    {left : Nat} {p last : Progress} {events : List (Event ask reply)}
    (run : (attempts agents validator outline left p).Takes events last) :
    ∃ tries : List (List (Event ask reply)), events = tries.flatten ∧ tries.length ≤ left ∧
      ∀ part ∈ tries, ∃ task outcome, (agents.draft task).Takes part outcome := by
  induction left generalizing p events with
  | zero =>
    cases run
    exact ⟨[], rfl, Nat.zero_le _, by simp⟩
  | succ left ih =>
    obtain ⟨first, outcome, later, rfl, called, rest⟩ := Dialogue.bind_takes.mp run
    by_cases accepted : (p.advance validator outcome).isAccepted = true
    · simp only [accepted, if_true] at rest
      cases rest
      exact ⟨[first], by simp, by simp, by simpa using ⟨_, _, called⟩⟩
    · simp only [accepted] at rest
      obtain ⟨tries, rfl, bound, each⟩ := ih rest
      refine ⟨first :: tries, rfl, by simpa using bound, ?_⟩
      intro part member
      rcases List.mem_cons.mp member with rfl | member
      · exact ⟨_, _, called⟩
      · exact each part member

/-- After the attempts at most a title is asked for. -/
theorem conclude_takes {ask reply : Type} {agents : Agents ask reply} {validator : Validator} {outline : Text}
    {p : Progress} {events : List (Event ask reply)} {result : Except Failure Lesson}
    (run : (conclude agents validator outline p).Takes events result) :
    events = [] ∨ ∃ t, (title agents outline).Takes events t := by
  obtain ⟨accepted, concluded⟩ := exists_conclude_eq validator outline p
  rw [concluded] at run
  cases accepted with
  | error e =>
    cases run
    exact .inl rfl
  | ok lesson => exact .inr (Dialogue.bind_takes_of_done (fun _ => ⟨_, rfl⟩) run)

/-- What happens while a lesson is made, in parts: the attempts, each of them a call of the agent that makes
drafts, and after them what is asked for the title, if anything is. -/
structure Stages (plan : Plan) (r : Request) (events : List (Event Question (Except Failure Answer)))
    (tries : List (List (Event Question (Except Failure Answer))))
    (titling : List (Event Question (Except Failure Answer))) : Prop where
  split : events = tries.flatten ++ titling
  bounded : tries.length ≤ (plan.maxAttempts - r.attempt).toNat
  drafts : ∀ part ∈ tries, ∃ task outcome, (plan.agents.draft task).Takes part outcome
  title : titling = [] ∨ ∃ t, (title plan.agents r.outline).Takes titling t

theorem Stages.keepsTo {tries : List (List (Event Question (Except Failure Answer)))}
    {titling part : List (Event Question (Except Failure Answer))} (stages : Stages plan r events tries titling)
    (member : part ∈ titling :: tries) : KeepsTo plan.delays part := by
  rcases List.mem_cons.mp member with rfl | member
  · rcases stages.title with rfl | ⟨t, asked⟩
    · exact .nil
    · exact title_keepsTo asked
  · obtain ⟨task, outcome, drafted⟩ := stages.drafts part member
    exact draft_keepsTo drafted

theorem generateLesson_stages {result : Except Failure Lesson} (run : (generateLesson plan r).Takes events result) :
    ∃ tries titling, Stages plan r events tries titling := by
  obtain ⟨made, p, titling, split, attempted, concluded⟩ := Dialogue.bind_takes.mp run
  obtain ⟨tries, flat, bounded, drafts⟩ := attempts_takes attempted
  exact ⟨tries, titling, by rw [split, flat], bounded, drafts, conclude_takes concluded⟩

end Lessons

open Run Dialogue in
/-- A call is made again only for want of quota, after the next of the delays each time, and what comes of the
last call comes of all. So with the delays that a plan has unless it says otherwise, a model is asked at most four
times for each attempt of a lesson and at most four times for its title, and each of these waits for at most 75
seconds. -/
theorem calls_keep_to_delays :
    (∀ {ask reply α : Type} (delays : List Rat) (p : Dialogue ask reply (Except Failure α)) (runs : List (Run p))
        (events : List (Event ask reply)) (outcome : Except Failure α), delays.length < runs.length →
      (exchangesOf events <+: runs.flatMap fun run => exchangesOf run.events) →
      ∃ last, runs[repeats delays runs]? = some last ∧
        ((retry delays p).Takes events outcome ↔
          events = delayed (delays.take (repeats delays runs)) runs ++ last.events ∧ outcome = last.outcome)) ∧
    ∀ (plan : Plan) (r : Request) (events : List (Event Question (Except Failure Answer)))
        (result : Except Failure Lesson), plan.delays = [5, 20, 50] → (generateLesson plan r).Takes events result →
      ∃ tries titling, Stages plan r events tries titling ∧
        ∀ part ∈ titling :: tries, (exchangesOf part).length ≤ 4 ∧ (delaysOf part).sum ≤ 75 := by
  refine ⟨fun delays p runs events outcome enough heard => retry_takes_of_runs runs enough heard, ?_⟩
  intro plan r events result default run
  obtain ⟨tries, titling, stages⟩ := generateLesson_stages run
  refine ⟨tries, titling, stages, ?_⟩
  intro part member
  have keeps := stages.keepsTo member
  rw [default] at keeps
  have total : ([5, 20, 50] : List Rat).sum = 75 := by norm_num
  exact ⟨keeps.asked_le, total ▸ keeps.waited_le (by simp)⟩

open Dialogue in
theorem calls_keep_to_delays_after_quota_errors :
    let quota : Failure := .other "RateLimitError" "429 Too Many Requests"
    let plan : Plan := { provider := "model", validator := fun _ _ => ⟨true, []⟩ }
    let r : Request := ⟨"1", "Fractions", 2⟩
    let writing : Question := ⟨.writer, generationPrompt "Fractions" 3⟩
    let naming : Question := ⟨.titler, titlePrompt "Fractions"⟩
    let events : List (Event Question (Except Failure Answer)) :=
      [.asked writing (.error quota), .waited 5, .asked writing (.ok ⟨"code", []⟩),
        .asked naming (.error quota), .waited 5, .asked naming (.error quota), .waited 20,
        .asked naming (.ok ⟨"Halves", []⟩)]
    (retry [5, 20] (.ask () .done)).Takes [.asked () (.error quota), .waited 5, .asked () (.ok 7)]
        (.ok (7 : Nat)) ∧
      (generateLesson plan r).Takes events (.ok ⟨"code", "Halves", 3, []⟩) ∧
      ∃ tries titling, Stages plan r events tries titling ∧
        ∀ part ∈ titling :: tries, (exchangesOf part).length ≤ 4 ∧ (delaysOf part).sum ≤ 75 := by
  intro quota plan r writing naming events
  have wants : quota.isQuotaError = true := by decide +kernel
  have coded : cleanCode "code" = "code" := by decide +kernel
  have named : cleanTitle "Halves" = "Halves" := by decide +kernel
  have refused {q : Question} {delay : Rat} {delays : List Rat} {later : List (Event Question (Except Failure Answer))}
      {answer : Answer} (run : (retry delays (.ask q .done)).Takes later (.ok answer)) :
      (retry (delay :: delays) (.ask q .done)).Takes (.asked q (.error quota) :: .waited delay :: later) (.ok answer) :=
    retry_cons_takes_iff.mpr ⟨⟨[.asked q (.error quota)], _, .ask _ (.done _)⟩, .inr ⟨wants, later, rfl, run⟩⟩
  have replied {q : Question} {delay : Rat} {delays : List Rat} (answer : Answer) :
      (retry (delay :: delays) (.ask q .done)).Takes [.asked q (.ok answer)] (.ok answer) :=
    retry_cons_takes_iff.mpr ⟨⟨[.asked q (.ok answer)], _, .ask _ (.done _)⟩, .inl ⟨rfl, rfl, rfl⟩⟩
  have called {q : Question} {events : List (Event Question (Except Failure Answer))} {answer : Answer}
      (run : (retry plan.delays (.ask q .done)).Takes events (.ok answer))
      (filled : Text.isBlank answer.content = false) : (Generation.call plan q).Takes events (.ok answer) :=
    bind_takes.mpr ⟨events, .ok answer, [], (List.append_nil _).symm, run, by simpa [filled] using .done _⟩
  have drafted : (plan.agents.draft (.write "Fractions" 2)).Takes (events.take 3) (.ok ⟨"code", []⟩) :=
    bind_takes.mpr ⟨events.take 3, .ok ⟨"code", []⟩, [], rfl, called (refused (replied _)) (by decide +kernel),
      by simpa only [coded] using .done _⟩
  have titled : (title plan.agents "Fractions").Takes (events.drop 3) "Halves" :=
    bind_takes.mpr ⟨events.drop 3, .ok "Halves", [], rfl,
      bind_takes.mpr ⟨events.drop 3, .ok ⟨"Halves", []⟩, [], rfl,
        called (refused (refused (replied _))) (by decide +kernel), by simpa only [named] using .done _⟩, .done _⟩
  have run : (generateLesson plan r).Takes events (.ok ⟨"code", "Halves", 3, []⟩) :=
    bind_takes.mpr ⟨events.take 3, _, events.drop 3, rfl,
      bind_takes.mpr ⟨events.take 3, _, [], rfl, drafted, .done _⟩,
      bind_takes.mpr ⟨events.drop 3, _, [], rfl, titled, .done _⟩⟩
  refine ⟨?_, run, calls_keep_to_delays.2 plan r events _ rfl run⟩
  let call (reply : Except Failure Nat) : Run (.ask () done) := ⟨[.asked () reply], reply, .ask reply (.done reply)⟩
  obtain ⟨last, atLast, runs⟩ := calls_keep_to_delays.1 [5, 20] (.ask () .done)
    [call (.error quota), call (.ok 7), call (.ok 8)] [.asked () (.error quota), .waited 5, .asked () (.ok 7)]
    (.ok 7) (by decide) ⟨[((), .ok 8)], rfl⟩
  have once : Run.repeats [5, 20] [call (.error quota), call (.ok 7), call (.ok 8)] = 1 := by
    have first : (call (.error quota)).wantsQuota = true := wants
    rw [Run.repeats_of_wantsQuota first, Run.repeats_of_not_wantsQuota rfl]
  rw [once] at atLast runs
  cases atLast
  exact runs.mpr ⟨rfl, rfl⟩

end LessonService.Generation
