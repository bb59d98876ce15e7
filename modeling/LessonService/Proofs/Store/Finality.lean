import LessonService.Proofs.Store.Lookup

namespace LessonService.Store

variable {now : Instant} {s : Store} {r : Record} {lessonId : Text}

/-- Whether an operation is answered that it finished a lesson. -/
def Operation.reportsFinish (now : Instant) (s : Store) (o : Operation) : Bool :=
  match o.perform now s with
  | .ok (.finished changed, _) => changed
  | _ => false

/-- Whether an operation finishes a lesson: a write is answered that it did, or a sweep counts it. -/
def Operation.finishes (now : Instant) (s : Store) (lessonId : Text) (o : Operation) : Bool :=
  match o with
  | markGenerated id _ _ | markFailed id _ => id = lessonId && o.reportsFinish now s
  | failStuck olderThan _ => (s.find? lessonId).any (isStuck olderThan)
  | _ => false

/-- Whether an operation makes a lesson, which it does unless it is refused. -/
def Operation.creates (now : Instant) (s : Store) (lessonId : Text) (o : Operation) : Bool :=
  match o, o.perform now s with
  | create id _ _, .ok _ => id = lessonId
  | _, _ => false

/-- Whether a lesson is there and still generating. -/
def isOpen (s : Store) (lessonId : Text) : Bool := (s.find? lessonId).any fun r => r.status = .generating

/-- How often something holds of a step, over the course of the steps. -/
def countSteps (holds : Instant → Store → Operation → Bool) : Store → List (Instant × Operation) → Nat
  | _, [] => 0
  | s, (now, o) :: steps => (holds now s o).toNat + countSteps holds (o.after now s) steps

def creations (s : Store) (lessonId : Text) (steps : List (Instant × Operation)) : Nat :=
  s.countSteps (fun now s o => o.creates now s lessonId) steps

def finishings (s : Store) (lessonId : Text) (steps : List (Instant × Operation)) : Nat :=
  s.countSteps (fun now s o => o.finishes now s lessonId) steps

theorem Operation.creates_eq (now : Instant) (s : Store) (lessonId : Text) (o : Operation) :
    o.creates now s lessonId = (o.added? now s).any fun r => r.lessonId = lessonId := by
  cases o with
  | create id outline title =>
    cases found : (s.find? id).isSome <;> simp [creates, perform, Store.create, added?, found, Except.map, Record.start]
  | _ => simp [creates, added?]

theorem HasUniqueIds.any_isUnfinished (unique : s.HasUniqueIds) (lessonId : Text) :
    s.records.any (isUnfinished lessonId) = s.isOpen lessonId := by
  apply Bool.eq_iff_iff.mpr
  simp only [List.any_eq_true, isUnfinished_iff, isOpen, Option.any_eq_true, unique.find?_eq_some_iff, and_assoc,
    decide_eq_true_eq]

theorem HasUniqueIds.finish_fst (unique : s.HasUniqueIds) (lessonId : Text) (change : Record → Record) :
    (finish lessonId change s).1 = s.isOpen lessonId := by
  rw [← unique.any_isUnfinished]
  apply Bool.eq_iff_iff.mpr
  simp [finish, updateWhere, List.countP_eq_zero]

theorem isOpen_iff : s.isOpen lessonId = true ↔ ∃ r, s.find? lessonId = some r ∧ r.status = .generating := by
  simp [isOpen, Option.any_eq_true]

theorem some_ne_of_finished {changed : Record} (unfinished : r.status = .generating)
    (finished : changed.status ≠ .generating) : some changed ≠ some r := by
  intro same
  exact finished (Option.some.inj same ▸ unfinished)

theorem revised_ne_iff {guard : Bool} {changed : Record} (unfinished : r.status = .generating)
    (finished : changed.status ≠ .generating) : some (if guard then changed else r) ≠ some r ↔ guard = true := by
  cases guard with
  | false => simp
  | true => simpa using some_ne_of_finished unfinished finished

/-- Answers are true: a write finishes a lesson exactly where it changes the record of one that is still
generating. -/
theorem HasUniqueIds.finishes_iff (unique : s.HasUniqueIds) (now : Instant) (lessonId : Text) (o : Operation) :
    o.finishes now s lessonId = true ↔
      ∃ r, s.find? lessonId = some r ∧ r.status = .generating ∧ o.revise now r ≠ some r := by
  have target (id : Text) : id = lessonId ∧ s.isOpen id = true ↔
      ∃ r, s.find? lessonId = some r ∧ r.status = .generating ∧ isUnfinished id r = true := by
    constructor
    · rintro ⟨rfl, opened⟩
      obtain ⟨r, found, unfinished⟩ := isOpen_iff.mp opened
      exact ⟨r, found, unfinished, isUnfinished_iff.mpr ⟨lessonId_of_find? found, unfinished⟩⟩
    · rintro ⟨r, found, unfinished, guard⟩
      have same := (isUnfinished_iff.mp guard).1.symm.trans (lessonId_of_find? found)
      exact ⟨same, isOpen_iff.mpr ⟨r, same ▸ found, unfinished⟩⟩
  cases o with
  | markGenerated id title content =>
    have reported : (Operation.markGenerated id title content).reportsFinish now s =
        (!content.isEmpty && s.isOpen id) := by
      rw [← unique.finish_fst id (Record.succeed now title content)]
      cases empty : content.isEmpty <;>
        simp [Operation.reportsFinish, Operation.perform, Store.markGenerated, empty, Except.map]
    have changed {r : Record} (unfinished : r.status = .generating) :
        (Operation.markGenerated id title content).revise now r ≠ some r ↔
          content.isEmpty = false ∧ isUnfinished id r = true :=
      (revised_ne_iff unfinished (by simp)).trans (by simp)
    simp only [Operation.finishes, reported, Bool.and_eq_true, decide_eq_true_eq, Bool.not_eq_true']
    rw [and_left_comm, target]
    constructor
    · rintro ⟨filled, r, found, unfinished, guard⟩
      exact ⟨r, found, unfinished, (changed unfinished).mpr ⟨filled, guard⟩⟩
    · rintro ⟨r, found, unfinished, different⟩
      have guard := (changed unfinished).mp different
      exact ⟨guard.1, r, found, unfinished, guard.2⟩
  | markFailed id message =>
    have reported : (Operation.markFailed id message).reportsFinish now s = s.isOpen id :=
      unique.finish_fst id (Record.fail now message)
    simp only [Operation.finishes, reported, Bool.and_eq_true, decide_eq_true_eq]
    rw [target]
    constructor
    · rintro ⟨r, found, unfinished, guard⟩
      exact ⟨r, found, unfinished, (revised_ne_iff unfinished (by simp)).mpr guard⟩
    · rintro ⟨r, found, unfinished, different⟩
      exact ⟨r, found, unfinished, (revised_ne_iff unfinished (by simp)).mp different⟩
  | failStuck olderThan message =>
    simp only [Operation.finishes, Option.any_eq_true]
    constructor
    · rintro ⟨r, found, guard⟩
      have unfinished := (isStuck_iff.mp guard).1
      exact ⟨r, found, unfinished, (revised_ne_iff unfinished (by simp)).mpr guard⟩
    · rintro ⟨r, found, unfinished, different⟩
      exact ⟨r, found, (revised_ne_iff unfinished (by simp)).mp different⟩
  | deleteFailed olderThan =>
    constructor
    · intro never
      cases never
    · rintro ⟨r, found, unfinished, different⟩
      have guard : isExpired olderThan r = false := by simp [isExpired, unfinished]
      exact absurd (by simp [Operation.revise, guard]) different
  | create | get | findDuplicate | list | stats =>
    constructor
    · intro never
      cases never
    · rintro ⟨r, found, unfinished, different⟩
      exact absurd rfl different

/-- A lesson that is created is either finished or still generating. -/
theorem HasUniqueIds.step_balance (unique : s.HasUniqueIds) (now : Instant) (lessonId : Text) (o : Operation) :
    (s.isOpen lessonId).toNat + (o.creates now s lessonId).toNat =
      (o.finishes now s lessonId).toNat + ((o.after now s).isOpen lessonId).toNat := by
  have finishes := unique.finishes_iff now lessonId o
  have left := unique.find?_after now o lessonId
  rw [o.creates_eq]
  cases found : s.find? lessonId with
  | none =>
    have idle : o.finishes now s lessonId = false := by
      simpa [found] using finishes
    simp only [found] at left
    rw [idle]
    cases added : o.added? now s with
    | none => simp [isOpen, found, left, added]
    | some r =>
      obtain ⟨_, outline, title, start⟩ := Operation.added?_eq_some added
      have open_ : r.status = .generating := by rw [start]; rfl
      by_cases same : r.lessonId = lessonId <;> simp [isOpen, found, left, added, same, open_, Option.filter]
  | some r =>
    have uncreated : (o.added? now s).any (fun r => r.lessonId = lessonId) = false := by
      apply Bool.eq_false_iff.mpr
      intro any
      obtain ⟨new, added, same⟩ := (Option.any_eq_true ..).mp any
      have absent := (Operation.added?_eq_some added).1
      rw [of_decide_eq_true same, found] at absent
      cases absent
    simp only [found] at left
    simp only [found, Option.some.injEq, exists_eq_left'] at finishes
    have step := o.revise_step now r
    generalize o.revise now r = result at step left finishes
    cases step with
    | keep =>
      have idle : o.finishes now s lessonId = false := by simpa using finishes
      simp [isOpen, found, left, idle, uncreated]
    | succeed unfinished | fail unfinished | abandon unfinished =>
      have active := finishes.mpr ⟨unfinished, some_ne_of_finished unfinished (by simp)⟩
      simp [isOpen, found, left, active, uncreated, unfinished]
    | remove failed =>
      have idle : o.finishes now s lessonId = false := by simpa [failed] using finishes
      simp [isOpen, found, left, idle, uncreated, failed]

/-- Over any operations, the lessons that were generating at first and those that were created are the
ones that were finished and those that are generating at last. -/
theorem HasUniqueIds.balance (unique : s.HasUniqueIds) (lessonId : Text) (steps : List (Instant × Operation)) :
    (s.isOpen lessonId).toNat + s.creations lessonId steps =
      s.finishings lessonId steps + ((s.afterAll steps).isOpen lessonId).toNat := by
  induction steps generalizing s with
  | nil => simp [creations, finishings, countSteps]
  | cons step steps ih =>
    obtain ⟨now, o⟩ := step
    have first := unique.step_balance now lessonId o
    have later := ih (unique.after now o)
    simp only [creations, finishings, countSteps, afterAll_cons] at later ⊢
    omega

theorem HasUniqueIds.find?_afterAll_of_absent (unique : s.HasUniqueIds) (absent : s.find? lessonId = none)
    (steps : List (Instant × Operation)) (uncreated : s.creations lessonId steps = 0) :
    (s.afterAll steps).find? lessonId = none := by
  induction steps generalizing s with
  | nil => exact absent
  | cons step steps ih =>
    obtain ⟨now, o⟩ := step
    simp only [creations, countSteps, Nat.add_eq_zero_iff, Bool.toNat_eq_zero] at uncreated
    refine ih (unique.after now o) ?_ uncreated.2
    have left := unique.find?_after now o lessonId
    have added := o.creates_eq now s lessonId
    rw [uncreated.1] at added
    simp only [absent] at left
    rw [left, Option.filter_eq_none_iff]
    intro r here
    simpa [here] using added

/-- What operations can do to a lesson that is finished: nothing, or at some moment remove it if it
failed long enough ago. Then it is gone, unless one is created anew. -/
theorem HasUniqueIds.find?_afterAll_of_finished (unique : s.HasUniqueIds) (found : s.find? lessonId = some r)
    (finished : r.status ≠ .generating) (steps : List (Instant × Operation)) :
    (s.afterAll steps).find? lessonId = some r ∨
      r.status = .failed ∧ ∃ first now olderThan later, steps = first ++ (now, .deleteFailed olderThan) :: later ∧
        (s.afterAll first).find? lessonId = some r ∧ r.updatedAt.micros < olderThan.micros ∧
        (s.creations lessonId steps = 0 → (s.afterAll steps).find? lessonId = none) := by
  induction steps generalizing s with
  | nil => exact .inl found
  | cons step steps ih =>
    obtain ⟨now, o⟩ := step
    have left := unique.find?_after now o lessonId
    simp only [found] at left
    have later (uncreated : s.creations lessonId ((now, o) :: steps) = 0) :
        (o.after now s).creations lessonId steps = 0 := (Nat.add_eq_zero_iff.mp uncreated).2
    rcases (o.revise_step now r).of_finished finished with kept | ⟨removed, failed⟩
    · rcases ih (unique.after now o) (left.trans kept) with
        stays | ⟨failed, first, time, olderThan, rest, split, here, old, gone⟩
      · exact .inl stays
      · refine .inr ⟨failed, (now, o) :: first, time, olderThan, rest, ?_, here, old, fun uncreated => gone (later uncreated)⟩
        rw [split, List.cons_append]
    · cases o with
      | deleteFailed olderThan =>
        have guard : isExpired olderThan r = true := by
          by_contra kept
          simp [Operation.revise, kept] at removed
        refine .inr ⟨failed, [], now, olderThan, steps, rfl, found, (isExpired_iff.mp guard).2, ?_⟩
        intro uncreated
        exact (unique.after now _).find?_afterAll_of_absent (left.trans removed) steps (later uncreated)
      | _ => cases removed

/-- A sweep counts the lessons that it finishes. -/
theorem HasUniqueIds.failStuck_count (unique : s.HasUniqueIds) (now olderThan : Instant) (message : Text) :
    (s.failStuck now olderThan message).1 =
      s.records.countP fun r => (Operation.failStuck olderThan message).finishes now s r.lessonId := by
  apply List.countP_congr
  intro r member
  have found := unique.find?_eq_some_iff.mpr ⟨member, rfl⟩
  simp [Operation.finishes, found]

/-- Whatever tasks and sweeps the operations come from, and in whatever order, each lesson that is created is
finished at most once: by a write that is answered so, or by a sweep that counts it. From then on
its record is what it is, except that a sweep may remove a lesson that failed. An identity is only ever
used again by a creation that is not refused, and that is another lesson. -/
theorem finished_once (before steps : List (Instant × Operation)) (lessonId : Text) :
    let s := ({} : Store).afterAll before
    (s.isOpen lessonId).toNat + s.creations lessonId steps =
      s.finishings lessonId steps + ((s.afterAll steps).isOpen lessonId).toNat ∧
    (s.creations lessonId steps = 0 → s.finishings lessonId steps ≤ 1) ∧
    (∀ now olderThan message, (s.failStuck now olderThan message).1 =
      s.records.countP fun r => (Operation.failStuck olderThan message).finishes now s r.lessonId) ∧
    ∀ r, s.find? lessonId = some r → r.status ≠ .generating →
      (s.creations lessonId steps = 0 → s.finishings lessonId steps = 0) ∧
      ((s.afterAll steps).find? lessonId = some r ∨
        r.status = .failed ∧ ∃ first now olderThan later, steps = first ++ (now, .deleteFailed olderThan) :: later ∧
          (s.afterAll first).find? lessonId = some r ∧ r.updatedAt.micros < olderThan.micros ∧
          (s.creations lessonId steps = 0 → (s.afterAll steps).find? lessonId = none)) := by
  intro s
  have unique : s.HasUniqueIds := hasUniqueIds_afterAll before
  have balance := unique.balance lessonId steps
  have atMostOne := Bool.toNat_le (s.isOpen lessonId)
  refine ⟨balance, fun uncreated => by omega, unique.failStuck_count, ?_⟩
  intro r found finished
  have closed : s.isOpen lessonId = false := by simp [isOpen, found, finished]
  rw [closed, Bool.toNat_false] at balance
  exact ⟨fun uncreated => by omega, unique.find?_afterAll_of_finished found finished steps⟩

end LessonService.Store
