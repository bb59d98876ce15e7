import LessonService.Proofs.Number.Order
import LessonService.Proofs.Number.Rounding
import LessonService.Proofs.Quota.Windows
import Mathlib.Tactic.NormNum

namespace LessonService.Quota

variable {g : Guard} {v : Visit} {visits : List Visit} {client : Text} {w : Window} {d : Decision}
  {held last : Option Window}

namespace Counter

/-- The window of a visit, the visit counted: the last one until its time is up, and then another. -/
def step (last : Option Window) (v : Visit) : Except Overflow Window :=
  let another : Except Overflow Window := do return ⟨1, ← v.now.plus v.windowMillis⟩
  match last with
  | none => another
  | some w => if w.resetAt.less v.now then another else .ok ⟨w.count + 1, w.resetAt⟩

/-- What a counter for one client decides on visits, one after the other. It keeps the window that opened last, and
drops nothing. -/
def outcomes : Option Window → List Visit → List (Except Refusal Decision)
  | _, [] => []
  | last, v :: visits =>
    if v.windowMillis ≤ 0 || v.limit ≤ 0 then .error .notPositive :: outcomes last visits
    else
      match step last v with
      | .error e => .error (.overflow e) :: outcomes last visits
      | .ok w =>
        let d : Decision := ⟨w.count ≤ v.limit, v.limit, max 0 (v.limit - w.count), w.resetAt, v.now⟩
        d.logged :: outcomes (some w) visits

theorem outcomes_of_not_isPositive (refused : ¬v.IsPositive) :
    outcomes last (v :: visits) = .error .notPositive :: outcomes last visits := by
  rw [Visit.isPositive_iff, not_not] at refused
  rw [outcomes, if_pos refused]

theorem outcomes_of_error {e : Overflow} (positive : v.IsPositive) (failed : step last v = .error e) :
    outcomes last (v :: visits) = .error (.overflow e) :: outcomes last visits := by
  rw [outcomes, if_neg (Visit.isPositive_iff.mp positive), failed]

theorem outcomes_of_ok (positive : v.IsPositive) (made : step last v = .ok w) :
    outcomes last (v :: visits) = (w.decide v).logged :: outcomes (some w) visits := by
  rw [outcomes, if_neg (Visit.isPositive_iff.mp positive), made]
  rfl

end Counter

/-- Two visits at times that are values, the first not after the second. -/
def Visit.NotAfter (v later : Visit) : Prop :=
  ∃ p q, v.now.value? = some p ∧ later.now.value? = some q ∧ p ≤ q

theorem Window.isOver_of_notAfter {later : Visit} (passed : w.isOver v.now = true) (order : v.NotAfter later) :
    w.isOver later.now = true := by
  obtain ⟨p, q, atV, atLater, le⟩ := order
  exact Number.less_of_less_of_le passed atV atLater le

/-- What a guard holds of a client, beside the window that opened last: the same, or nothing, where this window
is over for all visits to come. -/
def Holds (visits : List Visit) (held last : Option Window) : Prop :=
  held = last ∨ held = none ∧ ∃ w, last = some w ∧ ∀ v ∈ visits, w.isOver v.now = true

theorem Guard.windowFor_eq (g : Guard) (v : Visit) :
    (g.windowFor v).map Window.counted = Counter.step (g.find? v.client) v := by
  unfold windowFor Counter.step Window.isOver Visit.opening
  cases v.now.plus v.windowMillis <;> cases g.find? v.client with
  | none => rfl
  | some w => cases passed : w.resetAt.less v.now <;> simp [passed, Except.map, Window.counted]

/-- A window whose time is up opens another one, just as no window does. -/
theorem Holds.step_eq (holds : Holds (v :: visits) held last) : Counter.step held v = Counter.step last v := by
  rcases holds with rfl | ⟨rfl, w, rfl, passed⟩
  · rfl
  · have isOver : w.resetAt.less v.now = true := passed v List.mem_cons_self
    simp [Counter.step, isOver]

theorem Holds.tail (holds : Holds (v :: visits) held last) : Holds visits held last :=
  holds.imp_right fun ⟨gone, w, same, passed⟩ =>
    ⟨gone, w, same, fun u member => passed u (List.mem_cons_of_mem v member)⟩

theorem Holds.leaves (holds : Holds (v :: visits) held last) (clock : ∀ later ∈ visits, v.NotAfter later) :
    Holds visits (g.leaves v held) last := by
  have later (passed : ∀ w, last = some w → w.isOver v.now = true) : Holds visits none last := by
    cases last with
    | none => exact .inl rfl
    | some w => exact .inr ⟨rfl, w, rfl, fun u member => Window.isOver_of_notAfter (passed w rfl) (clock u member)⟩
  rcases holds with rfl | ⟨rfl, w, rfl, passed⟩
  · unfold Guard.leaves
    split
    · cases held with
      | none => exact .inl rfl
      | some w =>
        cases isOver : w.isOver v.now with
        | false => exact .inl (by simp [isOver])
        | true =>
          have dropped : (some w).filter (fun w => !w.isOver v.now) = none := by simp [isOver]
          rw [dropped]
          exact later (by rintro _ ⟨⟩; exact isOver)
    · exact .inl rfl
  · have nothing : g.leaves v none = none := by simp [Guard.leaves]
    rw [nothing]
    exact later (by rintro _ ⟨⟩; exact passed v List.mem_cons_self)

/-- The visits of one client, with what has become of them. -/
def visitsOf (client : Text) (visits : List Visit) (outcomes : List (Except Refusal Decision)) :
    List (Visit × Except Refusal Decision) := (visits.zip outcomes).filter fun x => x.1.client = client

/-- What has become of the visits of one client. -/
def outcomesOn (client : Text) (visits : List Visit) (outcomes : List (Except Refusal Decision)) :
    List (Except Refusal Decision) := (visitsOf client visits outcomes).map Prod.snd

@[simp] theorem outcomesOn_cons (client : Text) (v : Visit) (visits : List Visit) (o : Except Refusal Decision)
    (outcomes : List (Except Refusal Decision)) :
    outcomesOn client (v :: visits) (o :: outcomes) =
      if v.client = client then o :: outcomesOn client visits outcomes else outcomesOn client visits outcomes := by
  by_cases same : v.client = client <;> simp [outcomesOn, visitsOf, same]

theorem Guard.HasUniqueClients.outcomesOn_admitAll (unique : g.HasUniqueClients)
    (clock : visits.Pairwise Visit.NotAfter) (holds : Holds visits (g.find? client) last) :
    outcomesOn client visits (g.admitAll visits).1 =
      Counter.outcomes last (visits.filter fun v => v.client = client) := by
  induction visits generalizing g last with
  | nil => rfl
  | cons v visits ih =>
    rw [List.pairwise_cons] at clock
    have later {g' : Guard} {o : Except Refusal Decision} (admitted : g.admitVisit v = (o, g')) :
        outcomesOn client (v :: visits) (g.admitAll (v :: visits)).1 =
          if v.client = client then o :: outcomesOn client visits (g'.admitAll visits).1
          else outcomesOn client visits (g'.admitAll visits).1 := by
      simp [admitAll, admitted]
    by_cases positive : v.IsPositive
    · have made := g.windowFor_eq v
      cases found : g.windowFor v with
      | error e =>
        rw [later (admitVisit_of_error positive found), ih unique clock.2 holds.tail]
        by_cases own : v.client = client
        · subst own
          rw [found, holds.step_eq] at made
          simp [Counter.outcomes_of_error positive made.symm]
        · simp [own]
      | ok w =>
        rw [later (admitVisit_of_ok positive found)]
        have kept := unique.find?_keep v w.counted client
        by_cases own : v.client = client
        · subst own
          rw [found, holds.step_eq] at made
          have same : Holds (v :: visits) (some w.counted) (some w.counted) := .inl rfl
          rw [if_pos rfl] at kept
          rw [if_pos rfl, ih (unique.keep v w.counted) clock.2 (kept ▸ same.leaves clock.1)]
          simp [Counter.outcomes_of_ok positive made.symm]
        · rw [if_neg own] at kept
          rw [if_neg own, ih (unique.keep v w.counted) clock.2 (kept ▸ holds.leaves clock.1)]
          simp [own]
    · rw [later (admitVisit_of_not_isPositive g positive), ih unique clock.2 holds.tail]
      by_cases own : v.client = client
      · simp [own, Counter.outcomes_of_not_isPositive positive]
      · simp [own]

/-- A visit whose time and window are so far from the ends of double precision that nothing overflows. -/
structure Visit.IsModest (v : Visit) : Prop where
  now : v.now.IsWithin 1000
  window : |v.windowMillis| ≤ 2 ^ 1000

theorem Decision.exists_retryAfter (reset : d.resetAt.IsWithin 1005) (now : d.now.IsWithin 1000) :
    ∃ seconds, d.retryAfter = .ok seconds := by
  obtain ⟨wait, left, within⟩ := reset.exists_minus (now.mono (by decide)) (by decide)
  obtain ⟨x, c, divided, ceiling⟩ := within.exists_ceil_thousandth (by decide)
  exact ⟨max 0 c, by simp [retryAfter, left, divided, ceiling, bind, Except.bind, pure, Except.pure]⟩

theorem Decision.logged_eq_ok {seconds : Int} (delay : d.retryAfter = .ok seconds) : d.logged = .ok d := by
  rw [logged, delay]
  exact ite_self _

theorem Counter.exists_step (modest : v.IsModest) (within : ∀ w ∈ last, w.resetAt.IsWithin 1005) :
    ∃ w, step last v = .ok w ∧ w.resetAt.IsWithin 1005 := by
  obtain ⟨reset, sum, small⟩ := modest.now.exists_plus modest.window le_rfl
  cases last with
  | none => exact ⟨⟨1, reset⟩, by simp [step, sum], small⟩
  | some w =>
    by_cases passed : w.resetAt.less v.now = true
    · exact ⟨⟨1, reset⟩, by simp [step, sum, passed], small⟩
    · exact ⟨⟨w.count + 1, w.resetAt⟩, by simp [step, passed], within w rfl⟩

/-- Every modest visit is decided on. -/
theorem Counter.exists_decision (positive : ∀ v ∈ visits, v.IsPositive) (modest : ∀ v ∈ visits, v.IsModest)
    (within : ∀ w ∈ last, w.resetAt.IsWithin 1005) : ∀ o ∈ outcomes last visits, ∃ d, o = .ok d := by
  induction visits generalizing last with
  | nil => exact fun o member => absurd member List.not_mem_nil
  | cons v visits ih =>
    rw [List.forall_mem_cons] at positive modest
    obtain ⟨w, made, small⟩ := exists_step modest.1 within
    obtain ⟨seconds, delay⟩ := (w.decide v).exists_retryAfter small modest.1.now
    rw [outcomes_of_ok positive.1 made, Decision.logged_eq_ok delay, List.forall_mem_cons]
    exact ⟨⟨_, rfl⟩, ih positive.2 modest.2 (by rintro _ ⟨⟩; exact small)⟩

theorem exists_mem_outcomesOn {o : Except Refusal Decision} {outcomes : List (Except Refusal Decision)}
    (length : outcomes.length = visits.length) (member : o ∈ outcomes) :
    ∃ client, o ∈ outcomesOn client visits outcomes := by
  obtain ⟨i, small, rfl⟩ := List.mem_iff_getElem.mp member
  have paired : (visits[i], outcomes[i]) ∈ visits.zip outcomes :=
    List.mem_iff_getElem.mpr ⟨i, by simp [length ▸ small, small], by simp⟩
  exact ⟨visits[i].client, List.mem_map.mpr ⟨_, List.mem_filter.mpr ⟨paired, by simp⟩, rfl⟩⟩

/-- A guard that has seen nobody makes of one client's visits what a counter of its own makes of them. -/
theorem outcomesOn_admitAll (cleanupProbability : Number) (client : Text) (clock : visits.Pairwise Visit.NotAfter) :
    outcomesOn client visits (Guard.admitAll { cleanupProbability } visits).1 =
      Counter.outcomes none (visits.filter fun v => v.client = client) := by
  have unique : Guard.HasUniqueClients { cleanupProbability } := List.nodup_nil
  exact unique.outcomesOn_admitAll clock (.inl rfl)

/-- Whoever else makes requests and whenever old windows are dropped, what becomes of every request is what a counter
makes of it that sees the requests of its client only and drops nothing. Requests that cannot be decided on change
nothing, and there are none among visits that are positive and modest. -/
theorem admitAll_separate (cleanupProbability : Number) (visits : List Visit)
    (clock : visits.Pairwise Visit.NotAfter) :
    let outcomes := (Guard.admitAll { cleanupProbability } visits).1
    outcomes.length = visits.length ∧
      (∀ client, outcomesOn client visits outcomes =
        Counter.outcomes none (visits.filter fun v => v.client = client)) ∧
      ((∀ v ∈ visits, v.IsPositive ∧ v.IsModest) → ∀ o ∈ outcomes, ∃ d, o = .ok d) := by
  refine ⟨Guard.admitAll_length _ _, fun client => outcomesOn_admitAll _ client clock, fun fits o member => ?_⟩
  obtain ⟨client, among⟩ := exists_mem_outcomesOn (Guard.admitAll_length _ visits) member
  rw [outcomesOn_admitAll _ client clock] at among
  refine Counter.exists_decision (fun v own => ?_) (fun v own => ?_) (by rintro _ ⟨⟩) o among
  · exact (fits v (List.mem_of_mem_filter own)).1
  · exact (fits v (List.mem_of_mem_filter own)).2

/-- Two clients in turn, with old windows dropped at every request, one of them at the very end of its window. -/
theorem admitAll_separate_at_reset :
    let visit (client : Text) (now : Int) : Visit := ⟨client, 1000, 1, now, 0⟩
    let visits := [visit "a" 0, visit "b" 1000, visit "a" 1000, visit "b" 2001, visit "a" 2001]
    visits.Pairwise Visit.NotAfter ∧ (∀ v ∈ visits, v.IsPositive ∧ v.IsModest) ∧
      let outcomes := (Guard.admitAll { cleanupProbability := 1 } visits).1
      outcomes.map (fun o => o.toOption.map Decision.isAllowed) =
          [some true, some true, some false, some true, some true] ∧
        outcomesOn "a" visits outcomes = Counter.outcomes none [visit "a" 0, visit "a" 1000, visit "a" 2001] ∧
        ∀ o ∈ outcomes, ∃ d, o = .ok d := by
  intro visit visits
  have clock : visits.Pairwise Visit.NotAfter := by
    norm_num [visits, visit, Visit.NotAfter, Number.value?]
  have fits : ∀ v ∈ visits, v.IsPositive ∧ v.IsModest := by
    have fitting (client : Text) {now : Int} (early : |now| ≤ 2 ^ 11) :
        (visit client now).IsPositive ∧ (visit client now).IsModest := by
      have within : (now : Number).IsWithin 11 := ⟨now, rfl, by exact_mod_cast early⟩
      have window : |(1000 : Int)| ≤ 2 ^ 11 := by decide
      exact ⟨⟨show (0 : Int) < 1000 by decide, show (0 : Int) < 1 by decide⟩, within.mono (by decide),
        window.trans (pow_le_pow_right₀ (by decide) (by decide))⟩
    simp only [visits, List.forall_mem_cons, List.not_mem_nil, false_implies, implies_true, and_true]
    exact ⟨fitting "a" (by decide), fitting "b" (by decide), fitting "a" (by decide), fitting "b" (by decide),
      fitting "a" (by decide)⟩
  obtain ⟨-, separate, decided⟩ := admitAll_separate 1 visits clock
  exact ⟨clock, fits, by decide +kernel, separate "a", decided fits⟩

end LessonService.Quota
