import LessonService.Proofs.Quota.Counting
import Mathlib.Tactic.Linarith
import Mathlib.Tactic.NormNum

namespace LessonService.Quota

variable {v : Visit} {visits : List Visit} {w : Window} {window limit : Int} {start opening t : Rat} {hit count : Nat}

/-- A visit at a time to which its window's length is added without rounding. -/
def Visit.IsExact (v : Visit) : Prop :=
  ∃ t reset, v.now.value? = some t ∧ v.now.plus v.windowMillis = .ok reset ∧
    reset.value? = some (t + v.windowMillis)

/-- Whether a visit was admitted, and in a closed stretch of time. -/
def Decision.isAllowedWithin (start stop : Rat) (d : Decision) : Bool :=
  d.isAllowed && d.now.value?.any fun t => start ≤ t && t ≤ stop

/-- A visit of a client whose windows all have one length and one limit. -/
structure Visit.Keeps (window limit : Int) (v : Visit) : Prop extends v.IsPositive where
  window_eq : v.windowMillis = window
  limit_eq : v.limit = limit
  exact : v.IsExact

/-- A window was opened at a time. -/
def Window.IsSince (window : Int) (opening : Rat) (w : Window) : Prop := w.resetAt.value? = some (opening + window)

theorem Visit.Keeps.opens (keeps : v.Keeps window limit) : v.Opens := by
  obtain ⟨t, reset, -, sum, -⟩ := keeps.exact
  exact (Visit.opens_of_plus keeps.toIsPositive sum).1

theorem Visit.Keeps.isSince (keeps : v.Keeps window limit) (atV : v.now.value? = some t) :
    (⟨1, v.reset⟩ : Window).IsSince window t := by
  obtain ⟨t', reset, at', sum, exact⟩ := keeps.exact
  rw [atV] at at'
  cases at'
  rw [Window.IsSince, (Visit.opens_of_plus keeps.toIsPositive sum).2, exact, keeps.window_eq]

namespace Counter

/-- How many visits may still be admitted from `start` until a window's length later, if the window that is held
was opened at some time and has counted some visits. -/
def allowance (window limit : Int) (start : Rat) (count : Nat) (opening : Rat) : Int :=
  if start + window < opening then 0
  else if start ≤ opening then max 0 (limit - count)
  else if start ≤ opening + window then max 0 (limit - count) + limit
  else 2 * limit

/-- A visit to the window that is held. -/
theorem allowance_counted (single : hit ≤ 1)
    (within : hit ≠ 0 → (count + 1 : Int) ≤ limit ∧ start ≤ t ∧ t ≤ start + window)
    (since : opening ≤ t) (before : t ≤ opening + window) :
    hit + allowance window limit start (count + 1) opening ≤ allowance window limit start count opening := by
  unfold allowance
  rcases Nat.eq_zero_or_pos hit with rfl | positive
  · split_ifs <;> omega
  · obtain ⟨room, low, high⟩ := within positive.ne'
    have notPast : ¬start + window < opening := not_lt.mpr (since.trans high)
    have reached : start ≤ opening + window := low.trans before
    rw [if_neg notPast, if_neg notPast, if_pos reached, if_pos reached]
    split_ifs <;> omega

/-- A visit that opens a window when none is held. -/
theorem allowance_opened (single : hit ≤ 1) (within : hit ≠ 0 → start ≤ t) (positive : 0 < window) (some_ : 0 < limit) :
    hit + allowance window limit start 1 t ≤ 2 * limit := by
  have length : (0 : Rat) < window := Int.cast_pos.mpr positive
  unfold allowance
  rcases Nat.eq_zero_or_pos hit with rfl | visited
  · split_ifs <;> omega
  · have low := within visited.ne'
    rw [if_pos low]
    split_ifs <;> omega

/-- A visit that opens a window after the end of the one that is held. -/
theorem allowance_reopened (single : hit ≤ 1) (within : hit ≠ 0 → start ≤ t ∧ t ≤ start + window)
    (positive : 0 < window) (some_ : 0 < limit) (after : opening + window < t) :
    hit + allowance window limit start 1 t ≤ allowance window limit start count opening := by
  have length : (0 : Rat) < window := Int.cast_pos.mpr positive
  by_cases reached : start ≤ opening + window
  · have inside : start ≤ t := reached.trans after.le
    by_cases late : start ≤ opening
    · -- The window that is held lasts until the stretch is over.
      have past : start + window < t := by linarith
      have none_ : hit = 0 := by
        by_contra visited
        exact absurd (within visited).2 (not_le.mpr past)
      unfold allowance
      rw [if_pos past, if_pos late, none_]
      split_ifs <;> omega
    · have notPast : ¬start + window < opening := by linarith
      unfold allowance
      rw [if_neg notPast, if_neg late, if_pos reached, if_pos inside]
      split_ifs <;> omega
  · have late : ¬start ≤ opening := by linarith
    have notPast : ¬start + window < opening := by linarith
    have all : allowance window limit start count opening = 2 * limit := by
      unfold allowance
      rw [if_neg notPast, if_neg late, if_neg reached]
    rw [all]
    exact allowance_opened single (fun visited => (within visited).1) positive some_

theorem countP_decisions_cons (holds : Decision → Bool) (held : Option Window) (v : Visit) (visits : List Visit) :
    (decisions held (v :: visits)).countP holds =
      (holds ((next held v).decide v)).toNat + (decisions (some (next held v)) visits).countP holds := by
  rw [decisions_cons, List.countP_cons, add_comm]
  cases holds ((next held v).decide v) <;> rfl

/-- A decision that counts in a stretch is made by a window with room left, and in this stretch. -/
theorem within_of_hit (keeps : v.Keeps window limit) (atV : v.now.value? = some t)
    (hit : ((w.decide v).isAllowedWithin start (start + window)).toNat ≠ 0) :
    (w.count : Int) ≤ limit ∧ start ≤ t ∧ t ≤ start + window := by
  simpa [Decision.isAllowedWithin, Window.decide, atV, keeps.limit_eq] using hit

theorem le_of_notAfter {u : Visit} {s : Rat} (order : v.NotAfter u) (atV : v.now.value? = some t)
    (atU : u.now.value? = some s) : t ≤ s := by
  obtain ⟨p, q, atP, atQ, le⟩ := order
  rw [atV] at atP
  rw [atU] at atQ
  cases atP
  cases atQ
  exact le

/-- What is admitted is within the allowance, by one step for each visit. -/
theorem countP_le_allowance (positive : 0 < window) (some_ : 0 < limit) (keeps : ∀ v ∈ visits, v.Keeps window limit)
    (clock : visits.Pairwise Visit.NotAfter) (opened : w.IsSince window opening)
    (since : ∀ v ∈ visits, ∀ t, v.now.value? = some t → opening ≤ t) :
    ((decisions (some w) visits).countP (Decision.isAllowedWithin start (start + window)) : Int) ≤
      allowance window limit start w.count opening := by
  induction visits generalizing w opening with
  | nil =>
    unfold allowance
    simp only [decisions, List.countP_nil]
    split_ifs <;> omega
  | cons v visits ih =>
    rw [List.forall_mem_cons] at keeps since
    rw [List.pairwise_cons] at clock
    obtain ⟨own, others⟩ := keeps
    obtain ⟨t, -, atV, -⟩ := own.exact
    have single (w' : Window) := Bool.toNat_le ((w'.decide v).isAllowedWithin start (start + window))
    cases passed : w.resetAt.less v.now with
    | true =>
      have after := (Number.less_iff opened atV).mp passed
      have later : ∀ u ∈ visits, ∀ s, u.now.value? = some s → t ≤ s :=
        fun u member s atU => le_of_notAfter (clock.1 u member) atV atU
      have rest := ih others clock.2 (own.isSince atV) later
      rw [countP_decisions_cons, next_of_over passed, Nat.cast_add]
      exact (Int.add_le_add_left rest _).trans
        (allowance_reopened (single _) (fun hit => (within_of_hit own atV hit).2) positive some_ after)
    | false =>
      have before : t ≤ opening + window := not_lt.mp fun after => by
        rw [(Number.less_iff opened atV).mpr after] at passed
        cases passed
      have rest := ih (w := ⟨w.count + 1, w.resetAt⟩) others clock.2 opened since.2
      rw [countP_decisions_cons, next_of_notOver passed, Nat.cast_add]
      exact (Int.add_le_add_left rest _).trans
        (allowance_counted (single _) (fun hit => within_of_hit own atV hit) (since.1 t atV) before)

/-- No closed stretch of a window's length holds more than twice the limit. -/
theorem countP_decisions_le (keeps : ∀ v ∈ visits, v.Keeps window limit) (clock : visits.Pairwise Visit.NotAfter)
    (start : Rat) :
    (decisions none visits).countP (Decision.isAllowedWithin start (start + window)) ≤ 2 * limit.toNat := by
  cases visits with
  | nil => exact Nat.zero_le _
  | cons v visits =>
    rw [List.forall_mem_cons] at keeps
    rw [List.pairwise_cons] at clock
    obtain ⟨own, others⟩ := keeps
    have positive : 0 < window := own.window_eq ▸ own.lasting
    have some_ : 0 < limit := own.limit_eq ▸ own.roomy
    obtain ⟨t, -, atV, -⟩ := own.exact
    have later : ∀ u ∈ visits, ∀ s, u.now.value? = some s → t ≤ s :=
      fun u member s atU => le_of_notAfter (clock.1 u member) atV atU
    have bound : ((decisions none (v :: visits)).countP (Decision.isAllowedWithin start (start + window)) : Int) ≤
        2 * limit := by
      rw [countP_decisions_cons, Nat.cast_add]
      exact (Int.add_le_add_left (countP_le_allowance positive some_ others clock.2 (own.isSince atV) later) _).trans
        (allowance_opened (Bool.toNat_le _) (fun hit => (within_of_hit own atV hit).2.1) positive some_)
    omega

/-- The visits that fall into a window are admitted until it has counted as many as the limit. -/
theorem isAdmitted_takeWhile (keeps : ∀ v ∈ visits, v.Keeps window limit) {i : Nat}
    {x : Visit × Except Refusal Decision}
    (place : ((visits.zip ((decisions (some w) visits).map Decision.logged)).takeWhile
      fun x => !w.resetAt.less x.1.now)[i]? = some x) :
    isAdmitted x.2 = true ↔ (w.count + 1 + i : Int) ≤ limit := by
  induction visits generalizing w i with
  | nil => cases place
  | cons v visits ih =>
    rw [List.forall_mem_cons] at keeps
    rw [decisions_cons, List.map_cons, List.zip_cons_cons] at place
    cases passed : w.resetAt.less v.now with
    | true =>
      rw [List.takeWhile_cons_of_neg (by simp [passed])] at place
      cases place
    | false =>
      rw [List.takeWhile_cons_of_pos (by simp [passed]), next_of_notOver passed] at place
      cases i with
      | zero =>
        cases place
        rw [isAdmitted_logged]
        simp [Window.decide, keeps.1.limit_eq]
      | succ i =>
        rw [ih (w := ⟨w.count + 1, w.resetAt⟩) keeps.2 place]
        push_cast
        constructor <;> intro <;> omega

/-- A visit after the end of the window that was decided on last opens a new one. -/
theorem next_of_fresh (positive : ∀ u ∈ visits, u.IsPositive)
    (fresh : ∀ last, (((decisions none visits).map Decision.logged).filterMap Except.toOption).getLast? = some last →
      last.resetAt.less v.now = true) : next (after none visits) v = ⟨1, v.reset⟩ := by
  have last := after_resetAt positive
  cases held : after none visits with
  | none => rfl
  | some w =>
    rw [held, Option.map_some, eq_comm, Option.map_eq_some_iff] at last
    obtain ⟨d, ended, same⟩ := last
    exact next_of_over (same ▸ fresh d ended)

theorem isAllowed_opened (kept : v.Keeps window limit) : ((⟨1, v.reset⟩ : Window).decide v).isAllowed = true := by
  have roomy := kept.roomy
  simp [Window.decide]
  omega

/-- The visit that opens a window is the first one that it admits. -/
theorem isAdmitted_opened (kept : v.Keeps window limit) (keeps : ∀ u ∈ visits, u.Keeps window limit) {i : Nat}
    {x : Visit × Except Refusal Decision}
    (place : ((v, ((⟨1, v.reset⟩ : Window).decide v).logged) ::
      (visits.zip ((decisions (some ⟨1, v.reset⟩) visits).map Decision.logged)).takeWhile
        fun x => !v.reset.less x.1.now)[i]? = some x) :
    isAdmitted x.2 = true ↔ (i + 1 : Int) ≤ limit := by
  cases i with
  | zero =>
    have roomy := kept.limit_eq ▸ kept.roomy
    cases place
    rw [isAdmitted_logged, isAllowed_opened kept]
    simp
    omega
  | succ i =>
    rw [isAdmitted_takeWhile (w := ⟨1, v.reset⟩) keeps place]
    push_cast
    constructor <;> intro <;> omega

end Counter

/-- Whether a request was let through in a closed stretch of time. -/
def isAdmittedWithin (start stop : Rat) (o : Except Refusal Decision) : Bool :=
  o.toOption.any (Decision.isAllowedWithin start stop)

theorem isAdmittedWithin_logged (start stop : Rat) (d : Decision) :
    isAdmittedWithin start stop d.logged = d.isAllowedWithin start stop := by
  cases allowed : d.isAllowed with
  | true => rw [Decision.logged_of_isAllowed allowed]; rfl
  | false =>
    unfold Decision.logged
    rw [allowed]
    cases d.retryAfter <;> simp [isAdmittedWithin, Decision.isAllowedWithin, allowed, Except.toOption]

/-- A client's window takes the first requests, as many as the limit says, and in no closed stretch of its length
are there more than twice as many, whatever others do and whenever old windows are dropped. -/
theorem admitAll_rate (cleanupProbability : Number) (client : Text) (window limit : Int) (visits : List Visit)
    (clock : visits.Pairwise Visit.NotAfter) (keeps : ∀ v ∈ visits, v.client = client → v.Keeps window limit) :
    let outcomes := (Guard.admitAll { cleanupProbability } visits).1
    outcomes.length = visits.length ∧
      (∀ start, (outcomesOn client visits outcomes).countP (isAdmittedWithin start (start + window)) ≤
        2 * limit.toNat) ∧
      ∀ before v o rest, visitsOf client visits outcomes = before ++ (v, o) :: rest →
        (∀ last, (before.filterMap fun x => x.2.toOption).getLast? = some last → last.resetAt.less v.now = true) →
        ∃ opening, o = .ok opening ∧ v.now.plus window = .ok opening.resetAt ∧
          ∀ (i : Nat) x, ((v, o) :: rest.takeWhile fun x => !opening.resetAt.less x.1.now)[i]? = some x →
            (isAdmitted x.2 = true ↔ (i + 1 : Int) ≤ limit) := by
  intro outcomes
  have length : outcomes.length = visits.length := Guard.admitAll_length _ _
  set own := visits.filter fun v => v.client = client with visited
  have keepsOwn : ∀ v ∈ own, v.Keeps window limit := by
    intro v member
    obtain ⟨member, same⟩ := List.mem_filter.mp member
    exact keeps v member (of_decide_eq_true same)
  have counted : outcomesOn client visits outcomes = (Counter.decisions none own).map Decision.logged :=
    (outcomesOn_admitAll _ client clock).trans (Counter.outcomes_eq fun v member => (keepsOwn v member).opens)
  refine ⟨length, fun start => ?_, fun before v o rest split fresh => ?_⟩
  · have same : isAdmittedWithin start (start + window) ∘ Decision.logged =
        Decision.isAllowedWithin start (start + window) := funext (isAdmittedWithin_logged _ _)
    rw [counted, List.countP_map, same]
    exact Counter.countP_decisions_le keepsOwn (clock.filter _) start
  · -- The visits before and after, each with its decision.
    have allVisits : (visitsOf client visits outcomes).map Prod.fst = _ := visitsOf_map_fst length
    have allOutcomes : (visitsOf client visits outcomes).map Prod.snd = _ := counted
    rw [split, List.map_append, List.map_cons] at allVisits allOutcomes
    rw [← visited] at allVisits
    rw [← allVisits] at allOutcomes keepsOwn
    rw [Counter.decisions_append, Counter.decisions_cons, List.map_append, List.map_cons] at allOutcomes
    obtain ⟨made, others⟩ := List.append_inj allOutcomes (by simp)
    obtain ⟨decided, tail⟩ : o = _ ∧ _ := List.cons.inj others
    obtain ⟨keepsBefore, kept, keepsRest⟩ := by simpa only [List.forall_mem_append, List.forall_mem_cons] using keepsOwn
    have next : Counter.next (Counter.after none (before.map Prod.fst)) v = ⟨1, v.reset⟩ :=
      Counter.next_of_fresh (fun u member => (keepsBefore u member).toIsPositive)
        (by rwa [← made, List.filterMap_map])
    rw [next] at decided tail
    have opened := decided.trans (Decision.logged_of_isAllowed (Counter.isAllowed_opened kept))
    refine ⟨_, opened, kept.window_eq ▸ kept.opens.ends, fun i x place => ?_⟩
    rw [List.zip_of_prod rfl tail] at place
    exact Counter.isAdmitted_opened kept keepsRest (decided ▸ place)

/-- Two windows that meet one stretch, the second visit being at the very end of the first window. -/
theorem admitAll_rate_across_reset :
    let visit (client : Text) (now : Int) : Visit := ⟨client, 1000, 2, now, 0⟩
    let visits := [visit "a" 0, visit "b" 500, visit "a" 1000, visit "a" 1001, visit "a" 1001, visit "a" 1001]
    visits.Pairwise Visit.NotAfter ∧ (∀ v ∈ visits, v.client = "a" → v.Keeps 1000 2) ∧
      let outcomes := (Guard.admitAll { cleanupProbability := 1 } visits).1
      outcomes.map isAdmitted = [true, true, true, true, true, false] ∧
        (outcomesOn "a" visits outcomes).countP (isAdmittedWithin 1 1001) ≤ 4 := by
  intro visit visits
  have clock : visits.Pairwise Visit.NotAfter := by
    norm_num [visits, visit, Visit.NotAfter, Number.value?]
  have kept (client : Text) (now : Int) : (visit client now).Keeps 1000 2 := {
    lasting := show (0 : Int) < 1000 by decide
    roomy := show (0 : Int) < 2 by decide
    window_eq := rfl
    limit_eq := rfl
    exact := ⟨now, (now + 1000 : Int), rfl, rfl, by simp [visit, Number.value?]⟩ }
  have keeps : ∀ v ∈ visits, v.client = "a" → v.Keeps 1000 2 := by
    simp [visits, kept]
  obtain ⟨-, rate, -⟩ := admitAll_rate 1 "a" 1000 2 visits clock keeps
  have bound := rate 1
  norm_num at bound
  exact ⟨clock, keeps, by decide +kernel, bound⟩

end LessonService.Quota
