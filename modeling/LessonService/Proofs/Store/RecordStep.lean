import LessonService.Store.Operation
import Mathlib.Data.List.Nodup

namespace LessonService.Store

variable {now : Instant} {s : Store} {r r' : Record}

/-- What an operation makes of a record that is there before it. -/
def Operation.revise (now : Instant) : Operation → Record → Option Record
  | markGenerated lessonId title content, r =>
    some (if !content.isEmpty && isUnfinished lessonId r then r.succeed now title content else r)
  | markFailed lessonId message, r => some (if isUnfinished lessonId r then r.fail now message else r)
  | failStuck olderThan message, r => some (if isStuck olderThan r then r.abandon now message else r)
  | deleteFailed olderThan, r => if isExpired olderThan r then none else some r
  | _, r => some r

/-- The record that an operation adds. -/
def Operation.added? (now : Instant) (s : Store) : Operation → Option Record
  | create lessonId outline title =>
    if (s.find? lessonId).isSome then none else some (Record.start now lessonId outline title)
  | _ => none

theorem filterMap_revise_of_total {change : Record → Record} {o : Operation}
    (total : ∀ r, o.revise now r = some (change r)) : s.records.filterMap (o.revise now) = s.records.map change := by
  rw [← List.filterMap_eq_map', funext total]

theorem filterMap_revise_of_same {o : Operation} (same : ∀ r, o.revise now r = some r) :
    s.records.filterMap (o.revise now) = s.records := by
  rw [funext same]
  exact List.filterMap_some ..

/-- An operation works on each record alone, and what it adds comes last. -/
theorem Operation.after_records (now : Instant) (s : Store) (o : Operation) :
    (o.after now s).records = s.records.filterMap (o.revise now) ++ (o.added? now s).toList := by
  cases o with
  | create lessonId outline title =>
    rw [filterMap_revise_of_same (fun _ => rfl)]
    cases found : (s.find? lessonId).isSome <;> simp [after, perform, Store.create, added?, found, Except.map]
  | markGenerated lessonId title content =>
    rw [filterMap_revise_of_total (fun _ => rfl)]
    cases empty : content.isEmpty <;>
      simp [after, perform, Store.markGenerated, finish, updateWhere, added?, empty, Except.map]
  | markFailed | failStuck =>
    rw [filterMap_revise_of_total (fun _ => rfl)]
    exact (List.append_nil _).symm
  | deleteFailed olderThan =>
    simp only [after, perform, Store.deleteFailed, added?, Option.toList_none, List.append_nil]
    rw [← List.filterMap_eq_filter]
    congr 1
    funext r
    cases old : isExpired olderThan r <;> simp [revise, old, Option.guard]
  | list query =>
    rw [filterMap_revise_of_same (fun _ => rfl)]
    cases listed : s.list query <;> simp [after, perform, added?, listed, Except.map]
  | get | findDuplicate | stats =>
    rw [filterMap_revise_of_same (fun _ => rfl)]
    exact (List.append_nil _).symm

/-- All that one operation can make of one record. Only a lesson that is still generating is changed,
and only one that failed is removed. -/
inductive Record.Step (now : Instant) : Record → Option Record → Prop
  | keep (r : Record) : Step now r (some r)
  | succeed {r : Record} (unfinished : r.status = .generating) (title : Text) {content : Text} (filled : content ≠ []) :
      Step now r (some (r.succeed now title content))
  | fail {r : Record} (unfinished : r.status = .generating) (message : Text) :
      Step now r (some (r.fail now message))
  | abandon {r : Record} (unfinished : r.status = .generating) (message : Text) :
      Step now r (some (r.abandon now message))
  | remove {r : Record} (failed : r.status = .failed) : Step now r none

@[simp] theorem Record.succeed_status (title content : Text) : (r.succeed now title content).status = .generated := rfl

@[simp] theorem Record.fail_status (message : Text) : (r.fail now message).status = .failed := rfl

@[simp] theorem Record.abandon_status (message : Text) : (r.abandon now message).status = .failed := rfl

theorem isUnfinished_iff {lessonId : Text} :
    isUnfinished lessonId r = true ↔ r.lessonId = lessonId ∧ r.status = .generating := by
  simp [isUnfinished]

theorem isStuck_iff {olderThan : Instant} :
    isStuck olderThan r = true ↔ r.status = .generating ∧ r.createdAt.micros < olderThan.micros := by
  simp [isStuck]

theorem isExpired_iff {olderThan : Instant} :
    isExpired olderThan r = true ↔ r.status = .failed ∧ r.updatedAt.micros < olderThan.micros := by
  simp [isExpired]

theorem Operation.revise_step (now : Instant) (o : Operation) (r : Record) : r.Step now (o.revise now r) := by
  cases o with
  | markGenerated lessonId title content =>
    simp only [revise]
    split
    · rename_i guard
      rw [Bool.and_eq_true, isUnfinished_iff] at guard
      exact .succeed guard.2.2 title (by simpa using guard.1)
    · exact .keep r
  | markFailed lessonId message =>
    simp only [revise]
    split
    · rename_i guard
      exact .fail (isUnfinished_iff.mp guard).2 message
    · exact .keep r
  | failStuck olderThan message =>
    simp only [revise]
    split
    · rename_i guard
      exact .abandon (isStuck_iff.mp guard).1 message
    · exact .keep r
  | deleteFailed olderThan =>
    simp only [revise]
    split
    · rename_i guard
      exact .remove (isExpired_iff.mp guard).1
    · exact .keep r
  | create | get | findDuplicate | list | stats => exact .keep r

theorem Record.Step.lessonId_eq (step : r.Step now (some r')) : r'.lessonId = r.lessonId := by
  cases step <;> rfl

/-- A record that is finished is only ever kept as it is or, if its lesson failed, removed. -/
theorem Record.Step.of_finished {left : Option Record} (step : r.Step now left) (finished : r.status ≠ .generating) :
    left = some r ∨ left = none ∧ r.status = .failed := by
  cases step with
  | keep => exact .inl rfl
  | succeed unfinished | fail unfinished | abandon unfinished => exact absurd unfinished finished
  | remove failed => exact .inr ⟨rfl, failed⟩

theorem Operation.added?_eq_some {o : Operation} (added : o.added? now s = some r) :
    s.find? r.lessonId = none ∧ ∃ outline title, r = Record.start now r.lessonId outline title := by
  cases o with
  | create lessonId outline title =>
    simp only [added?] at added
    split at added
    · cases added
    · rename_i absent
      cases Option.some.inj added
      exact ⟨Option.not_isSome_iff_eq_none.mp absent, outline, title, rfl⟩
  | _ => cases added

@[simp] theorem afterAll_nil (s : Store) : s.afterAll [] = s := rfl

@[simp] theorem afterAll_cons (s : Store) (step : Instant × Operation) (steps : List (Instant × Operation)) :
    s.afterAll (step :: steps) = (step.2.after step.1 s).afterAll steps := rfl

/-- What new records have and every step keeps, all records have after any operation. -/
theorem Operation.after_forall {P : Record → Prop} (o : Operation)
    (born : ∀ now lessonId outline title, P (Record.start now lessonId outline title))
    (kept : ∀ now r r', Record.Step now r (some r') → P r → P r')
    (before : ∀ r ∈ s.records, P r) : ∀ r ∈ (o.after now s).records, P r := by
  intro r member
  rw [after_records, List.mem_append, List.mem_filterMap, Option.mem_toList] at member
  rcases member with ⟨old, oldMember, revised⟩ | added
  · have step := o.revise_step now old
    rw [revised] at step
    exact kept now old r step (before old oldMember)
  · obtain ⟨_, outline, title, same⟩ := added?_eq_some added
    rw [same]
    exact born now _ outline title

theorem afterAll_forall {P : Record → Prop} (steps : List (Instant × Operation))
    (born : ∀ now lessonId outline title, P (Record.start now lessonId outline title))
    (kept : ∀ now r r', Record.Step now r (some r') → P r → P r')
    (before : ∀ r ∈ s.records, P r) : ∀ r ∈ (s.afterAll steps).records, P r := by
  induction steps generalizing s with
  | nil => exact before
  | cons step steps ih => exact ih (step.2.after_forall born kept before)

end LessonService.Store
