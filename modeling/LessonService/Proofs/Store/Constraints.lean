import LessonService.Database.Migration
import LessonService.Proofs.Store.RecordStep
import LessonService.Proofs.Text.Trim

namespace LessonService.Store

variable {r r' : Record} {now : Instant} {s : Store}

/-- A message that may be kept with a failed lesson. -/
structure IsKept (message : Text) : Prop where
  nonempty : 1 ≤ message.length
  bounded : message.length ≤ maxMessageLength
  trimmed : message.IsTrimmed

theorem shortened_isKept {t : Text} (long : maxMessageLength < t.length) (trimmed : t.IsTrimmed) :
    IsKept (t.take (maxMessageLength - 3) ++ "...") where
  nonempty := by
    rw [List.length_append]
    exact Nat.le_add_left_of_le (by decide)
  bounded := by
    rw [List.length_append, List.length_take]
    have dots : (Text.ofString "...").length = 3 := by decide
    have room : 3 ≤ maxMessageLength := by decide
    omega
  trimmed := {
    first := by
      intro c head
      cases t with
      | nil => simp at long
      | cons d t => exact trimmed.first c head
    last := by
      intro c last
      rw [List.getLast?_append_of_ne_nil _ (by decide)] at last
      cases Option.some.inj last
      decide }

/-- Whatever message is given: a blank one is replaced and a long one is cut. -/
theorem capMessage_isKept (message : Text) : IsKept (capMessage message) := by
  have kept (t : Text) (filled : t ≠ []) (trimmed : t.IsTrimmed) :
      IsKept (if t.length ≤ maxMessageLength then t else t.take (maxMessageLength - 3) ++ "...") := by
    split
    · rename_i short
      exact ⟨List.length_pos_iff.mpr filled, short, trimmed⟩
    · rename_i long
      exact shortened_isKept (Nat.lt_of_not_le long) trimmed
  unfold capMessage
  by_cases blank : (Text.trim message).isEmpty = true
  · simp only [blank, if_true]
    refine kept _ (by decide) ⟨?_, ?_⟩
    · intro c head
      cases Option.some.inj head
      decide
    · intro c last
      cases Option.some.inj last
      decide
  · simp only [blank]
    exact kept _ (by simpa using blank) (Text.trim_isTrimmed message)

/-- Consistent, with content that is not empty and a message that may be kept. -/
structure Record.IsSound (r : Record) : Prop where
  consistent : r.IsConsistent
  filled : ∀ content, r.content = some content → content ≠ []
  explained : ∀ message, r.message = some message → IsKept message

theorem Record.IsSound.content_eq_none (sound : r.IsSound) (unfinished : r.status = .generating) :
    r.content = none := by
  have absent := sound.consistent.1.not.mp (by simp [unfinished])
  simpa using absent

theorem Record.start_isSound (now : Instant) (lessonId outline title : Text) :
    (Record.start now lessonId outline title).IsSound where
  consistent := by simp [Record.start, IsConsistent]
  filled := by simp [Record.start]
  explained := by simp [Record.start]

/-- A lesson that is abandoned keeps its content, and only because it has none is the record that is
left consistent. -/
theorem Record.Step.isSound (step : r.Step now (some r')) (sound : r.IsSound) : r'.IsSound := by
  cases step with
  | keep => exact sound
  | succeed unfinished title filled =>
    exact ⟨by simp [Record.succeed, IsConsistent], by simpa [Record.succeed] using filled, by simp [Record.succeed]⟩
  | fail unfinished message =>
    exact ⟨by simp [Record.fail, IsConsistent], by simp [Record.fail],
      by simpa [Record.fail] using capMessage_isKept message⟩
  | abandon unfinished message =>
    have absent := sound.content_eq_none unfinished
    exact ⟨by simp [Record.abandon, IsConsistent, absent], by simp [Record.abandon, absent],
      by simpa [Record.abandon] using capMessage_isKept message⟩

/-- The conditions that the table sets for a row, by the names of its constraints. -/
def rowChecks : List (Text × (Record → Bool)) := [
  ("ck_lessons_status", fun r => (["generating", "generated", "failed"] : List Text).contains r.status.name),
  ("ck_lessons_content_iff_generated", fun r => decide (r.status.name = ("generated" : Text)) == r.content.isSome),
  ("ck_lessons_error_iff_failed", fun r => decide (r.status.name = ("failed" : Text)) == r.message.isSome)]

example : rowChecks.map Prod.fst = Database.lessonsDefinition.constraints.filterMap fun
    | .check name _ => some name
    | .primaryKey _ _ => none := by decide

/-- The first constraint that a record breaks. -/
def Record.brokenCheck? (r : Record) : Option Text := (rowChecks.find? fun check => !check.2 r).map Prod.fst

theorem Status.name_injective : Function.Injective Status.name := by
  intro a b
  cases a <;> cases b <;> decide

theorem Status.name_known (status : Status) : status.name ∈ (["generating", "generated", "failed"] : List Text) := by
  cases status <;> decide

theorem Record.brokenCheck?_eq_none_iff : r.brokenCheck? = none ↔ r.IsConsistent := by
  have generated : r.status.name = ("generated" : Text) ↔ r.status = .generated :=
    Status.name_injective.eq_iff (b := .generated)
  have failed : r.status.name = ("failed" : Text) ↔ r.status = .failed :=
    Status.name_injective.eq_iff (b := .failed)
  simp only [brokenCheck?, rowChecks, Option.map_eq_none_iff, List.find?_eq_none, List.forall_mem_cons,
    List.contains_iff_mem.mpr r.status.name_known, generated, failed, IsConsistent]
  cases r.content <;> cases r.message <;> simp

/-- Why a table with constraints refuses an operation. -/
inductive Refusal where
  | store (e : StoreError)
  | check (name : Text)

/-- An operation on a table with constraints, which refuses it if a row that it would leave breaks one. -/
def Operation.performChecked (now : Instant) (s : Store) (o : Operation) : Except Refusal (Answer × Store) :=
  match o.perform now s with
  | .error e => .error (.store e)
  | .ok (answer, left) =>
    match left.records.findSome? Record.brokenCheck? with
    | some name => .error (.check name)
    | none => .ok (answer, left)

/-- Where all records are sound, the constraints never come into play. -/
theorem Operation.performChecked_of_isSound (now : Instant) (o : Operation) (sound : ∀ r ∈ s.records, r.IsSound) :
    o.performChecked now s = (o.perform now s).mapError .store := by
  have left : ∀ r ∈ (o.after now s).records, r.brokenCheck? = none := by
    intro r member
    have kept := o.after_forall Record.start_isSound (fun _ _ _ step => step.isSound) sound r member
    exact Record.brokenCheck?_eq_none_iff.mpr kept.consistent
  unfold performChecked
  unfold after at left
  cases performed : o.perform now s with
  | error e => rfl
  | ok result =>
    rw [performed] at left
    simp only [List.findSome?_eq_none_iff.mpr left]
    rfl

/-- Whatever operations are performed on an empty store, and whether they are refused or not, content
belongs to the generated lessons and messages that may be kept belong to the failed ones. No
operation that comes next is refused for a constraint. -/
theorem afterAll_sound (steps : List (Instant × Operation)) :
    (∀ r ∈ (({} : Store).afterAll steps).records,
      r.status.name ∈ (["generating", "generated", "failed"] : List Text) ∧
      (r.content.isSome ↔ r.status = .generated) ∧ (∀ content, r.content = some content → content ≠ []) ∧
      (r.message.isSome ↔ r.status = .failed) ∧
      ∀ message, r.message = some message → 1 ≤ message.length ∧ message.length ≤ 4000 ∧ message.IsTrimmed) ∧
    ∀ now o, Operation.performChecked now (({} : Store).afterAll steps) o =
      (o.perform now (({} : Store).afterAll steps)).mapError .store := by
  have sound : ∀ r ∈ (({} : Store).afterAll steps).records, r.IsSound :=
    afterAll_forall steps Record.start_isSound (fun _ _ _ step => step.isSound) (fun _ none => absurd none List.not_mem_nil)
  refine ⟨?_, fun now o => o.performChecked_of_isSound now sound⟩
  intro r member
  obtain ⟨⟨generated, failed⟩, filled, explained⟩ := sound r member
  refine ⟨r.status.name_known, generated.symm, filled, failed.symm, ?_⟩
  intro message given
  obtain ⟨nonempty, bounded, trimmed⟩ := explained message given
  exact ⟨nonempty, bounded, trimmed⟩

end LessonService.Store
