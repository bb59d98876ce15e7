import LessonService.Proofs.Quota.Separation
import Mathlib.Data.List.Induction

namespace LessonService.Quota

variable {v : Visit} {visits : List Visit} {client : Text} {last : Option Window} {w : Window} {d : Decision}

/-- The end of a window that opens with a visit. -/
def Visit.reset (v : Visit) : Number := (v.now.plus v.windowMillis).toOption.getD (.real .undefined)

/-- A visit that a window can open with. -/
structure Visit.Opens (v : Visit) : Prop extends v.IsPositive where
  ends : v.now.plus v.windowMillis = .ok v.reset

theorem Visit.opens_of_plus {reset : Number} (positive : v.IsPositive) (sum : v.now.plus v.windowMillis = .ok reset) :
    v.Opens ∧ v.reset = reset := by
  have same : v.reset = reset := by simp [Visit.reset, sum, Except.toOption]
  exact ⟨⟨positive, same ▸ sum⟩, same⟩

/-- Whether a request was let through. -/
def isAdmitted (o : Except Refusal Decision) : Bool := o.toOption.any Decision.isAllowed

theorem isAdmitted_logged (d : Decision) : isAdmitted d.logged = d.isAllowed := by
  unfold Decision.logged
  cases allowed : d.isAllowed with
  | true => simp [isAdmitted, allowed, Except.toOption]
  | false => cases d.retryAfter <;> simp [isAdmitted, allowed, Except.toOption]

theorem Decision.logged_of_isAllowed (allowed : d.isAllowed = true) : d.logged = .ok d := by
  rw [logged, if_pos allowed]

theorem eq_of_logged_eq_ok {other : Decision} (logged : d.logged = .ok other) : other = d := by
  unfold Decision.logged at logged
  split at logged
  · exact (Except.ok.inj logged).symm
  · split at logged <;> cases logged
    rfl

theorem outcomesOn_append {first rest : List Visit} {os ps : List (Except Refusal Decision)}
    (length : os.length = first.length) :
    outcomesOn client (first ++ rest) (os ++ ps) = outcomesOn client first os ++ outcomesOn client rest ps := by
  simp [outcomesOn, visitsOf, List.zip_append length.symm]

theorem outcomesOn_eq_nil {os : List (Except Refusal Decision)} (others : ∀ v ∈ visits, v.client ≠ client) :
    outcomesOn client visits os = [] := by
  rw [outcomesOn, visitsOf, List.map_eq_nil_iff, List.filter_eq_nil_iff]
  intro x member
  simpa using others x.1 (List.of_mem_zip member).1

theorem visitsOf_map_fst {os : List (Except Refusal Decision)} (length : os.length = visits.length) :
    (visitsOf client visits os).map Prod.fst = visits.filter fun v => v.client = client := by
  have all : (visits.zip os).map Prod.fst = visits := List.map_fst_zip length.ge
  conv_rhs => rw [← all, List.filter_map]
  rfl

namespace Counter

/-- The window of a visit that a window can open with. -/
def next (last : Option Window) (v : Visit) : Window :=
  match last with
  | none => ⟨1, v.reset⟩
  | some w => if w.resetAt.less v.now then ⟨1, v.reset⟩ else ⟨w.count + 1, w.resetAt⟩

theorem step_eq (opens : v.Opens) : step last v = .ok (next last v) := by
  have another : (do return ⟨1, ← v.now.plus v.windowMillis⟩ : Except Overflow Window) = .ok ⟨1, v.reset⟩ := by
    rw [opens.ends]
    rfl
  cases last with
  | none => exact another
  | some w => cases passed : w.resetAt.less v.now <;> simp [step, next, passed, another]

theorem next_of_over (passed : w.resetAt.less v.now = true) : next (some w) v = ⟨1, v.reset⟩ := by
  simp [next, passed]

theorem next_of_notOver (lasting : w.resetAt.less v.now = false) : next (some w) v = ⟨w.count + 1, w.resetAt⟩ := by
  simp [next, lasting]

/-- What the counter decides on visits that windows can open with, logged or not. -/
def decisions : Option Window → List Visit → List Decision
  | _, [] => []
  | last, v :: visits => (next last v).decide v :: decisions (some (next last v)) visits

theorem outcomes_eq (opens : ∀ v ∈ visits, v.Opens) :
    outcomes last visits = (decisions last visits).map Decision.logged := by
  induction visits generalizing last with
  | nil => rfl
  | cons v visits ih =>
    rw [List.forall_mem_cons] at opens
    rw [outcomes_of_ok opens.1.toIsPositive (step_eq opens.1), ih opens.2]
    rfl

/-- The window that a counter holds after visits. -/
def after (last : Option Window) (visits : List Visit) : Option Window :=
  visits.foldl (fun held v => some (next held v)) last

theorem decisions_cons (last : Option Window) (v : Visit) (visits : List Visit) :
    decisions last (v :: visits) = (next last v).decide v :: decisions (some (next last v)) visits := rfl

theorem decisions_append (last : Option Window) (first rest : List Visit) :
    decisions last (first ++ rest) = decisions last first ++ decisions (after last first) rest := by
  induction first generalizing last with
  | nil => rfl
  | cons v first ih => exact congrArg _ (ih _)

@[simp] theorem decisions_length (last : Option Window) (visits : List Visit) :
    (decisions last visits).length = visits.length := by
  induction visits generalizing last with
  | nil => rfl
  | cons v visits ih => exact congrArg (· + 1) (ih _)

theorem after_concat (last : Option Window) (visits : List Visit) (v : Visit) :
    after last (visits ++ [v]) = some (next (after last visits) v) := List.foldl_concat ..

/-- A window that turns a visit away was opened by an earlier one, and its time is not up. -/
theorem exists_of_denied (positive : v.IsPositive) (denied : ((next last v).decide v).isAllowed = false) :
    ∃ w, last = some w ∧ w.resetAt.less v.now = false ∧ next last v = ⟨w.count + 1, w.resetAt⟩ := by
  have some_ := positive.roomy
  have fresh : ¬((⟨1, v.reset⟩ : Window).decide v).isAllowed = false := by
    simp [Window.decide]
    omega
  cases last with
  | none => exact absurd denied fresh
  | some w =>
    cases passed : w.resetAt.less v.now with
    | true =>
      rw [next_of_over passed] at denied
      exact absurd denied fresh
    | false => exact ⟨w, rfl, passed, next_of_notOver passed⟩

/-- What has been decided last tells of the window that is held: a visit that is not decided on is turned away, and
opens none. -/
theorem after_resetAt (positive : ∀ v ∈ visits, v.IsPositive) :
    (after none visits).map Window.resetAt =
      (((decisions none visits).map Decision.logged).filterMap Except.toOption).getLast?.map Decision.resetAt := by
  induction visits using List.reverseRecOn with
  | nil => rfl
  | append_singleton visits v ih =>
    rw [List.forall_mem_append, List.forall_mem_singleton] at positive
    rw [after_concat, decisions_append, decisions, decisions, List.map_append, List.filterMap_append]
    rw [List.map_singleton]
    cases told : ((next (after none visits) v).decide v).logged with
    | ok d =>
      have decided : [(Except.ok d : Except Refusal Decision)].filterMap Except.toOption =
          [(next (after none visits) v).decide v] := by
        rw [eq_of_logged_eq_ok told]
        rfl
      rw [decided, List.getLast?_concat]
      rfl
    | error e =>
      have denied : ((next (after none visits) v).decide v).isAllowed = false := by
        rw [← isAdmitted_logged, told]
        rfl
      obtain ⟨w, held, -, made⟩ := exists_of_denied positive.2 denied
      have nothing : [(Except.error e : Except Refusal Decision)].filterMap Except.toOption = [] := rfl
      rw [nothing, List.append_nil, ← ih positive.1, made, held]
      rfl

/-- A window lasts as it was opened by some visit. -/
theorem after_opened (held : after none visits = some w) : ∃ v ∈ visits, w.resetAt = v.reset := by
  induction visits using List.reverseRecOn generalizing w with
  | nil => cases held
  | append_singleton visits v ih =>
    rw [after_concat] at held
    cases Option.some.inj held
    have own : ∃ u ∈ visits ++ [v], v.reset = u.reset := ⟨v, by simp, rfl⟩
    unfold next
    cases earlier : after none visits with
    | none => exact own
    | some w =>
      obtain ⟨u, member, opened⟩ := ih earlier
      dsimp only
      split
      · exact own
      · exact ⟨u, List.mem_append_left _ member, opened⟩

end Counter

end LessonService.Quota
