import LessonService.Proofs.Number.Rounding
import LessonService.Proofs.Quota.Counting

namespace LessonService.Quota

variable {u v : Visit} {w : Window} {d : Decision} {k : Nat} {now reset : Rat}

/-- A visit at a time that a clock of `2 ^ k` steps in a millisecond reads exactly, as it reads the end of a
window that opens then. -/
def Visit.IsCounted (k : Nat) (v : Visit) : Prop :=
  ∃ n : Int, v.now.value? = some ((n : Rat) / 2 ^ k) ∧ |n| + |v.windowMillis| * 2 ^ k < 2 ^ 53

theorem Visit.IsCounted.steps (counted : v.IsCounted k) (fine : k ≤ 100) :
    ∃ n : Int, v.now.value? = some ((n : Rat) / 2 ^ k) ∧ |n| < 2 ^ 53 ∧ |n + v.windowMillis * 2 ^ k| < 2 ^ 53 ∧
      |v.windowMillis * 2 ^ k| < 2 ^ 53 ∧ v.now.plus v.windowMillis = .ok v.reset ∧
      v.reset.value? = some (((n + v.windowMillis * 2 ^ k : Int) : Rat) / 2 ^ k) := by
  obtain ⟨n, atV, short⟩ := counted
  have scale : (1 : Int) ≤ 2 ^ k := one_le_pow₀ (by decide)
  have size : |v.windowMillis * 2 ^ k| = |v.windowMillis| * 2 ^ k := by
    rw [abs_mul, abs_of_pos (show (0 : Int) < 2 ^ k by positivity)]
  have sum := abs_add_le n (v.windowMillis * 2 ^ k)
  rw [size] at sum
  have shortSum : |n + v.windowMillis * 2 ^ k| < 2 ^ 53 := sum.trans_lt short
  have shortNow : |n| < 2 ^ 53 := lt_of_le_of_lt (le_add_of_nonneg_right (by positivity)) short
  have shortWindow : |v.windowMillis * 2 ^ k| < 2 ^ 53 :=
    size ▸ lt_of_le_of_lt (le_add_of_nonneg_left (abs_nonneg n)) short
  have shortAdded : |v.windowMillis| < 2 ^ 53 :=
    lt_of_le_of_lt (le_mul_of_one_le_right (abs_nonneg _) scale) (size ▸ shortWindow)
  obtain ⟨reset, ends, atEnd⟩ := Number.exists_plus atV shortAdded shortSum (by omega)
  have same : v.reset = reset := by simp [Visit.reset, ends, Except.toOption]
  refine ⟨n, atV, shortNow, shortSum, shortWindow, same ▸ ends, ?_⟩
  rw [same, atEnd]
  push_cast
  congr 1
  field_simp

/-- The announced delay, rounded as it is, reaches to the end of the window. -/
theorem exists_retryAfter (fine : k ≤ 100) (opening : u.IsCounted k) (counted : v.IsCounted k)
    (opened : d.resetAt = u.reset) (made : d.now = v.now) (order : u.NotAfter v)
    (atReset : d.resetAt.value? = some reset) (atNow : v.now.value? = some now) (waiting : now ≤ reset) :
    ∃ seconds, d.retryAfter = .ok seconds ∧ reset ≤ now + 1000 * seconds := by
  obtain ⟨m, atU, -, shortReset, shortWindow, -, atEnd⟩ := opening.steps fine
  obtain ⟨n, atV, shortNow, -⟩ := counted.steps fine
  obtain ⟨p, q, atP, atQ, order⟩ := order
  rw [atU] at atP
  rw [atV] at atQ atNow
  rw [opened, atEnd] at atReset
  cases atP
  cases atQ
  cases atNow
  cases atReset
  have steps : (0 : Rat) < 2 ^ k := by positivity
  have since : m ≤ n := by
    rw [div_le_div_iff_of_pos_right steps] at order
    exact_mod_cast order
  have until_ : n ≤ m + u.windowMillis * 2 ^ k := by
    rw [div_le_div_iff_of_pos_right steps] at waiting
    exact_mod_cast waiting
  obtain ⟨wait, difference⟩ := Int.le.dest until_
  have shortWait : wait < 2 ^ 53 := by
    have below := (abs_lt.mp shortWindow).2
    omega
  have same : m + u.windowMillis * 2 ^ k - n = wait := by omega
  have shortLeft : |m + u.windowMillis * 2 ^ k - n| < 2 ^ 53 := by
    rw [same, abs_of_nonneg (by positivity)]
    exact_mod_cast shortWait
  obtain ⟨left, subtracted, atLeft⟩ := Number.exists_minus (a := d.resetAt) (b := d.now) (opened ▸ atEnd) (made ▸ atV)
    shortReset shortNow shortLeft (by omega)
  rw [same, Int.cast_natCast] at atLeft
  obtain ⟨x, c, divided, rounded, above⟩ := Number.exists_ceil_thousandth atLeft shortWait fine
  refine ⟨max 0 c, by simp [Decision.retryAfter, subtracted, divided, rounded, bind, Except.bind, pure, Except.pure], ?_⟩
  have announced : (c : Rat) ≤ (max 0 c : Int) := by exact_mod_cast Int.le_max_right ..
  have value : ((m + u.windowMillis * 2 ^ k : Int) : Rat) / 2 ^ k = n / 2 ^ k + wait / 2 ^ k := by
    rw [← difference]
    push_cast
    rw [add_div]
  linarith

theorem Visit.IsCounted.fine (counted : v.IsCounted k) (positive : v.IsPositive) : k ≤ 100 := by
  obtain ⟨n, -, short⟩ := counted
  have lasting := positive.lasting
  by_contra coarse
  have long : (2 : Int) ^ 53 ≤ 2 ^ k := pow_le_pow_right₀ (by decide) (by omega)
  have whole : (1 : Int) * 2 ^ k ≤ |v.windowMillis| * 2 ^ k :=
    mul_le_mul_of_nonneg_right (by rw [abs_of_pos lasting]; omega) (by positivity)
  have size := abs_nonneg n
  omega

theorem Visit.IsCounted.opens (counted : v.IsCounted k) (positive : v.IsPositive) : v.Opens := by
  obtain ⟨-, -, -, -, -, ends, -⟩ := counted.steps (counted.fine positive)
  exact ⟨positive, ends⟩

/-- A visit that is turned away is told of a delay that reaches to the end of the window, which is not over yet. -/
theorem Counter.exists_delay {visits : List Visit} (counted : ∀ u ∈ visits ++ [v], u.IsCounted k)
    (positive : v.IsPositive) (clock : (visits ++ [v]).Pairwise Visit.NotAfter)
    (denied : ((Counter.next (after none visits) v).decide v).isAllowed = false) :
    let held := Counter.next (after none visits) v
    ∃ now reset seconds, v.now.value? = some now ∧ held.resetAt.value? = some reset ∧ now ≤ reset ∧
      (held.decide v).retryAfter = .ok seconds ∧ reset ≤ now + 1000 * seconds := by
  intro held
  obtain ⟨w, open_, lasting, made⟩ := exists_of_denied positive denied
  obtain ⟨u, member, opened⟩ := after_opened open_
  have countedV : v.IsCounted k := counted v (by simp)
  have countedU : u.IsCounted k := counted u (List.mem_append_left _ member)
  have fine := countedV.fine positive
  have order : u.NotAfter v := by
    rw [List.pairwise_append] at clock
    exact clock.2.2 u member v (by simp)
  obtain ⟨n, -, -, -, -, -, atEnd⟩ := countedU.steps fine
  obtain ⟨m, atNow, -⟩ := countedV.steps fine
  have since : held.resetAt = w.resetAt := (congrArg Window.resetAt made :)
  rw [← opened, ← since] at atEnd
  have waiting := not_lt.mp fun past => by
    have passed := (Number.less_iff (since ▸ atEnd) atNow).mpr past
    rw [lasting] at passed
    cases passed
  obtain ⟨seconds, delay, reached⟩ := exists_retryAfter (d := held.decide v) fine countedU countedV
    (since.trans opened) rfl order atEnd atNow waiting
  exact ⟨_, _, seconds, atNow, atEnd, waiting, delay, reached⟩

theorem Counter.logged_eq_ok {visits : List Visit} (counted : ∀ u ∈ visits ++ [v], u.IsCounted k)
    (positive : v.IsPositive) (clock : (visits ++ [v]).Pairwise Visit.NotAfter) :
    let d := (Counter.next (after none visits) v).decide v
    d.logged = .ok d := by
  intro d
  cases allowed : d.isAllowed with
  | true => exact Decision.logged_of_isAllowed allowed
  | false =>
    obtain ⟨-, -, seconds, -, -, -, delay, -⟩ := exists_delay counted positive clock allowed
    exact Decision.logged_eq_ok delay

/-- Once the announced delay is over, so is the window, unless it is the last moment of it. -/
theorem Counter.next_afterDelay {visits : List Visit} {next : Visit} {later : Rat} {seconds : Int}
    (counted : ∀ u ∈ visits ++ [v], u.IsCounted k) (positive : v.IsPositive) (positiveNext : next.IsPositive)
    (clock : (visits ++ [v]).Pairwise Visit.NotAfter)
    (denied : ((Counter.next (after none visits) v).decide v).isAllowed = false)
    (delay : ((Counter.next (after none visits) v).decide v).retryAfter = .ok seconds)
    (atNow : v.now.value? = some now) (atLater : next.now.value? = some later)
    (waited : now + 1000 * seconds ≤ later) :
    let held := Counter.next (after none visits) v
    (held.resetAt.value? ≠ some later → ((Counter.next (some held) next).decide next).isAllowed = true) ∧
      (held.resetAt.value? = some later → later = now + 1000 * seconds ∧
        (next.limit ≤ v.limit → ((Counter.next (some held) next).decide next).isAllowed = false)) := by
  intro held
  obtain ⟨_, reset, _, at', atEnd, -, told, reached⟩ := exists_delay counted positive clock denied
  rw [atNow] at at'
  cases at'
  rw [delay] at told
  cases told
  have roomy := positiveNext.roomy
  constructor
  · intro other
    have differs : reset ≠ later := fun same => other (same ▸ atEnd)
    have past := lt_of_le_of_ne (reached.trans waited) differs
    have passed := (Number.less_iff atEnd atLater).mpr past
    rw [next_of_over passed]
    simp [Window.decide]
    omega
  · intro same
    rw [same] at atEnd
    cases atEnd
    refine ⟨le_antisymm reached waited, fun less => ?_⟩
    have notOver : held.resetAt.less next.now = false := by
      by_contra passed
      exact lt_irrefl _ ((Number.less_iff same atLater).mp (by simpa using passed))
    rw [next_of_notOver notOver]
    simp [Window.decide] at denied ⊢
    change v.limit < (held.count : Int) at denied
    omega

theorem Guard.admitAll_around (g : Guard) (before : List Visit) (v : Visit) (between : List Visit) (next : Visit) :
    ∃ os o ps o' g', g.admitAll (before ++ v :: (between ++ [next])) = (os ++ o :: (ps ++ [o']), g') ∧
      os.length = before.length ∧ ps.length = between.length := by
  let first := g.admitAll before
  let middle := (first.2.admitVisit v).2.admitAll between
  refine ⟨first.1, (first.2.admitVisit v).1, middle.1, (middle.2.admitVisit next).1, (middle.2.admitVisit next).2, ?_,
    admitAll_length _ _, admitAll_length _ _⟩
  simp [admitAll_append, admitAll, first, middle]

section Around

variable {before between : List Visit} {next : Visit} (same : next.client = v.client)
  (others : ∀ u ∈ between, u.client ≠ v.client)

include same others

/-- A client who does not come in between comes a last time after all that was before. -/
theorem filter_around : (before ++ v :: (between ++ [next])).filter (fun u => u.client = v.client) =
    before.filter (fun u => u.client = v.client) ++ [v, next] := by
  have gone : between.filter (fun u => u.client = v.client) = [] := by
    rw [List.filter_eq_nil_iff]
    intro u member
    simpa using others u member
  simp [gone, same]

theorem outcomesOn_around {os ps : List (Except Refusal Decision)} {o o' : Except Refusal Decision}
    (length : os.length = before.length) (lengthMiddle : ps.length = between.length) :
    outcomesOn v.client (before ++ v :: (between ++ [next])) (os ++ o :: (ps ++ [o'])) =
      outcomesOn v.client before os ++ [o, o'] := by
  rw [outcomesOn_append length, outcomesOn_cons, if_pos rfl, outcomesOn_append lengthMiddle, outcomesOn_eq_nil others,
    List.nil_append, outcomesOn_cons, if_pos same]
  rfl

end Around

/-- A client who is turned away and comes back when the announced delay is over, or later, is admitted: unless it
is the moment at which the window ends. At this moment the window still counts, and it admits no visit that has the
same limit. -/
theorem admitAll_afterDelay (cleanupProbability : Number) (before : List Visit) (v : Visit) (between : List Visit)
    (next : Visit) (same : next.client = v.client) (others : ∀ u ∈ between, u.client ≠ v.client)
    (positive : ∀ u ∈ before ++ v :: (between ++ [next]), u.client = v.client → u.IsPositive)
    (clock : (before ++ v :: (between ++ [next])).Pairwise Visit.NotAfter)
    (counted : ∀ u ∈ before ++ v :: (between ++ [next]), u.client = v.client → u.IsCounted k) :
    ∃ os d ps e g,
      Guard.admitAll { cleanupProbability } (before ++ v :: (between ++ [next])) = (os ++ .ok d :: (ps ++ [.ok e]), g) ∧
      os.length = before.length ∧ ps.length = between.length ∧
      (d.isAllowed = false → ∃ seconds, d.retryAfter = .ok seconds ∧
        ∀ now later, v.now.value? = some now → next.now.value? = some later → now + 1000 * seconds ≤ later →
          (d.resetAt.value? ≠ some later → e.isAllowed = true) ∧
          (d.resetAt.value? = some later →
            later = now + 1000 * seconds ∧ (next.limit ≤ v.limit → e.isAllowed = false))) := by
  obtain ⟨os, o, ps, o', g, places, length, lengthMiddle⟩ :=
    Guard.admitAll_around { cleanupProbability } before v between next
  -- The visits of the client, and the decisions of its counter on them.
  have own : (before ++ v :: (between ++ [next])).filter (fun u => u.client = v.client) =
      before.filter (fun u => u.client = v.client) ++ [v, next] := filter_around same others
  have fits : ∀ u ∈ before.filter (fun u => u.client = v.client) ++ [v, next], u.IsPositive ∧ u.IsCounted k := by
    intro u member
    rw [← own] at member
    obtain ⟨member, client⟩ := List.mem_filter.mp member
    exact ⟨positive u member (of_decide_eq_true client), counted u member (of_decide_eq_true client)⟩
  have inTurn := clock.filter (fun u => u.client = v.client)
  have decided := outcomesOn_admitAll cleanupProbability v.client clock
  rw [own] at decided inTurn
  rw [places, outcomesOn_around same others length lengthMiddle,
    Counter.outcomes_eq fun u member => (fits u member).2.opens (fits u member).1, Counter.decisions_append,
    Counter.decisions_cons, Counter.decisions_cons, List.map_append, List.map_cons, List.map_cons] at decided
  obtain ⟨-, both⟩ := List.append_inj' decided rfl
  obtain ⟨madeV, rest⟩ := List.cons.inj both
  obtain ⟨madeNext, -⟩ := List.cons.inj rest
  have positiveV := (fits v (by simp)).1
  have positiveNext := (fits next (by simp)).1
  have toV : before.filter (fun u => u.client = v.client) ++ [v, next] =
      (before.filter (fun u => u.client = v.client) ++ [v]) ++ [next] := by simp
  rw [toV] at fits inTurn
  have countedBoth := fun u member => (fits u member).2
  have countedV := fun u member => countedBoth u (List.mem_append_left [next] member)
  have inTurnV := inTurn.sublist (List.sublist_append_left _ [next])
  rw [Counter.logged_eq_ok countedV positiveV inTurnV] at madeV
  have nextLogged := Counter.logged_eq_ok countedBoth positiveNext inTurn
  rw [Counter.after_concat] at nextLogged
  rw [nextLogged] at madeNext
  rw [madeV, madeNext] at places
  refine ⟨_, _, _, _, _, places, length, lengthMiddle, fun denied => ?_⟩
  obtain ⟨-, -, seconds, -, -, -, delay, -⟩ := Counter.exists_delay countedV positiveV inTurnV denied
  refine ⟨seconds, delay, fun now later atNow atLater waited => ?_⟩
  exact Counter.next_afterDelay countedV positiveV positiveNext inTurnV denied delay atNow atLater waited

/-- A delay that is rounded up to seconds, by half a millisecond among others. -/
theorem admitAll_afterDelay_rounded :
    let visit (client : Text) (now : Number) : Visit := ⟨client, 1500, 1, now, 0⟩
    let half : Number := .real (.finite (1 / 2))
    let visits := [visit "a" 0, visit "a" half, visit "b" 1500, visit "a" 2001]
    (∀ u ∈ visits, u.client = "a" → u.IsPositive) ∧ visits.Pairwise Visit.NotAfter ∧
      (∀ u ∈ visits, u.client = "a" → u.IsCounted 1) ∧
      ∃ first d other e g, Guard.admitAll { cleanupProbability := 1 } visits = ([first, .ok d, other, .ok e], g) ∧
        d.isAllowed = false ∧ d.retryAfter = .ok 2 ∧ e.isAllowed = true := by
  intro visit half visits
  have positive : ∀ u ∈ visits, u.client = "a" → u.IsPositive := by
    simp only [visits, List.forall_mem_cons, List.not_mem_nil, false_implies, implies_true, and_true]
    exact ⟨fun _ => ⟨by decide, by decide⟩, fun _ => ⟨by decide, by decide⟩, fun _ => ⟨by decide, by decide⟩,
      fun _ => ⟨by decide, by decide⟩⟩
  have clock : visits.Pairwise Visit.NotAfter := by
    norm_num [visits, visit, half, Visit.NotAfter, Number.value?, Double.value?]
  have counted : ∀ u ∈ visits, u.client = "a" → u.IsCounted 1 := by
    simp only [visits, List.forall_mem_cons, List.not_mem_nil, false_implies, implies_true, and_true]
    refine ⟨fun _ => ⟨0, ?_, by decide⟩, fun _ => ⟨1, ?_, by decide⟩, fun _ => ⟨3000, ?_, by decide⟩,
      fun _ => ⟨4002, ?_, by decide⟩⟩ <;> norm_num [visit, half, Number.value?, Double.value?]
  obtain ⟨os, d, ps, e, g, admitted, length, lengthMiddle, after⟩ :=
    admitAll_afterDelay 1 [visit "a" 0] (visit "a" half) [visit "b" 1500] (visit "a" 2001) rfl (by decide) positive
      clock counted
  obtain ⟨first, rfl⟩ := List.length_eq_one_iff.mp length
  obtain ⟨other, rfl⟩ := List.length_eq_one_iff.mp lengthMiddle
  have told : ((Guard.admitAll { cleanupProbability := 1 } visits).1.map fun o =>
      o.toOption.map fun d => (d.isAllowed, d.retryAfter.toOption, d.resetAt))[1]? =
        some (some (false, some 2, 1500)) := by decide +kernel
  change Guard.admitAll { cleanupProbability := 1 } visits = ([first, .ok d, other, .ok e], g) at admitted
  rw [admitted] at told
  obtain ⟨denied, delay, reset⟩ : d.isAllowed = false ∧ d.retryAfter.toOption = some 2 ∧ d.resetAt = 1500 := by
    simpa [Except.toOption] using told
  obtain ⟨seconds, announced, back⟩ := after denied
  rw [announced] at delay
  cases delay
  refine ⟨positive, clock, counted, first, d, other, e, g, admitted, denied, announced, ?_⟩
  refine (back (1 / 2) 2001 rfl rfl (by norm_num)).1 ?_
  norm_num [reset, Number.value?]

/-- At the end of a window the delay is over, and the client is turned away again with a delay of no seconds. -/
theorem admitAll_afterDelay_at_reset :
    let visit (now : Number) : Visit := ⟨"a", 1000, 1, now, 0⟩
    let visits := [visit 0, visit 0, visit 1000]
    (∀ u ∈ visits, u.IsPositive) ∧ visits.Pairwise Visit.NotAfter ∧ (∀ u ∈ visits, u.IsCounted 0) ∧
      ∃ first d e g, Guard.admitAll { cleanupProbability := 0 } visits = ([first, .ok d, .ok e], g) ∧
        d.isAllowed = false ∧ d.retryAfter = .ok 1 ∧ 0 + 1000 * 1 ≤ 1000 ∧ e.isAllowed = false ∧
        e.retryAfter = .ok 0 := by
  intro visit visits
  have positive : ∀ u ∈ visits, u.IsPositive := by
    simp only [visits, List.forall_mem_cons, List.not_mem_nil, false_implies, implies_true, and_true]
    exact ⟨⟨by decide, by decide⟩, ⟨by decide, by decide⟩, ⟨by decide, by decide⟩⟩
  have clock : visits.Pairwise Visit.NotAfter := by
    norm_num [visits, visit, Visit.NotAfter, Number.value?]
  have counted : ∀ u ∈ visits, u.IsCounted 0 := by
    simp only [visits, List.forall_mem_cons, List.not_mem_nil, false_implies, implies_true, and_true]
    exact ⟨⟨0, by simp [visit, Number.value?], by decide⟩, ⟨0, by simp [visit, Number.value?], by decide⟩,
      ⟨1000, by simp [visit, Number.value?], by decide⟩⟩
  have told : (Guard.admitAll { cleanupProbability := 0 } visits).1 =
      [.ok ⟨true, 1, 0, 1000, 0⟩, .ok ⟨false, 1, 0, 1000, 0⟩, .ok ⟨false, 1, 0, 1000, 1000⟩] := by decide +kernel
  exact ⟨positive, clock, counted, _, _, _, _, Prod.ext told rfl, rfl, by decide +kernel, by decide, rfl,
    by decide +kernel⟩

end LessonService.Quota
