import LessonService.Proofs.Generation.ReviewedContent
import LessonService.Proofs.Store.Constraints
import LessonService.Proofs.Store.Finality

namespace LessonService.Generation

variable {ε σ : Type} {timeout : Int} {lessonId : Text} {ending : Ending} {now : Instant} {s : Store}

/-- An operation that finishes a lesson, with content that is not empty or with a message. -/
inductive IsFinishing (lessonId : Text) : Store.Operation → Prop
  | generated (title : Text) {content : Text} (filled : content ≠ []) :
      IsFinishing lessonId (.markGenerated lessonId title content)
  | failed (message : Text) : IsFinishing lessonId (.markFailed lessonId message)

/-- A lesson that has become generated, with content, or failed, with a message. -/
structure IsFinished (old new : Store.Record) : Prop where
  lessonId : new.lessonId = old.lessonId
  outline : new.outline = old.outline
  createdAt : new.createdAt = old.createdAt
  ended : new.status = .generated ∧ (∃ content, new.content = some content ∧ content ≠ []) ∨
    new.status = .failed ∧ ∃ message, new.message = some message ∧ message ≠ []

/-- A store that answers at one moment. -/
def storeAt (now : Instant) : Dialogue.Responder Store.Operation (Except Store.StoreError Store.Answer) Store where
  respond s o := (0, (o.perform now s).map Prod.fst, o.after now s)

namespace FinalWrite

theorem ofEnding_isFinishing (timeout : Int) (lessonId : Text) (ending : Ending) :
    IsFinishing lessonId ((ofEnding timeout ending).operation lessonId) := by
  cases written : ofEnding timeout ending with
  | generated title content => exact .generated title (by simpa using ofEnding_filled written)
  | failed message => exact .failed message

theorem finished_isFinished (now : Instant) (row : Store.Record) (w : FinalWrite)
    (filled : ∀ title content, w = .generated title content → content.isEmpty = false) :
    IsFinished row (w.finished now row) := by
  cases w with
  | generated title content =>
    exact ⟨rfl, rfl, rfl, .inl ⟨rfl, content, rfl, by simpa using filled title content rfl⟩⟩
  | failed message =>
    have kept := (Store.capMessage_isKept message).nonempty
    exact ⟨rfl, rfl, rfl, .inr ⟨rfl, _, rfl, List.length_pos_iff.mp kept⟩⟩

theorem finished_status (now : Instant) (row : Store.Record) (w : FinalWrite) :
    (w.finished now row).status = w.status := by
  cases w <;> rfl

/-- Whatever has ended the making of a lesson, its final write is not refused, and it touches no record but that of
the lesson while it is generating. -/
theorem perform_ofEnding (timeout : Int) (ending : Ending) (lessonId : Text) (now : Instant) (s : Store) :
    let w := ofEnding timeout ending
    ∃ changed, (w.operation lessonId).perform now s = .ok (.finished changed,
      ⟨s.records.map fun row => if Store.isUnfinished lessonId row then w.finished now row else row⟩) :=
  perform_operation _ s now lessonId fun _ _ written => ofEnding_filled written

end FinalWrite

/-- A run asks the store once, and hands on what is refused. -/
theorem Ending.close_follow (timeout : Int) (lessonId : Text) (ending : Ending)
    (store : Dialogue.Responder Store.Operation (Except ε Store.Answer) σ) (state : σ) :
    let w := FinalWrite.ofEnding timeout ending
    let answered := store.respond state (w.operation lessonId)
    (ending.close timeout lessonId).follow store none state =
      ⟨[w.operation lessonId], answered.1, some (answered.2.1.map fun _ => w.status), answered.2.2⟩ := by
  intro w answered
  rcases answering : store.respond state (w.operation lessonId) with ⟨seconds, reply, left⟩
  have unbounded : Dialogue.passes none seconds = false := Bool.and_false _
  have waited : seconds + 0 = seconds := Rat.add_zero seconds
  cases reply <;> simp [close, Dialogue.follow, answering, answered, w, Except.map, unbounded, waited]

/-- The store that a run leaves is the one that its single request leaves. -/
theorem runLesson_eq_close (seconds : Rat) (responder : Dialogue.Responder Question (Except Failure Answer) σ)
    (plan : Plan) (state : σ) (r : Request) (now : Instant) (s : Store) :
    let ending := (makeWithin seconds responder plan state r).1
    runLesson seconds responder plan state r now s =
      .ok ((ending.close (wholeSeconds seconds) r.lessonId).follow (storeAt now) none s).state := by
  intro ending
  obtain ⟨changed, performed⟩ := FinalWrite.perform_ofEnding (wholeSeconds seconds) ending r.lessonId now s
  rw [Ending.close_follow]
  simp only [runLesson, FinalWrite.apply, storeAt, Store.Operation.after]
  rw [performed]
  rfl

/-- However the making of a lesson ends, in time or not, with code, with a known error or with any other, the store
is asked once, to finish this lesson, with content that is not empty or with a message; the run ends with what the
store says to that. Where the store takes it, this lesson is finished if it was generating, and every other record
is as it was. -/
theorem close_writes_once (timeout : Int) (result : Option (Except Failure Lesson)) (lessonId : Text) :
    ∃ o, IsFinishing lessonId o ∧
      (∀ (ε σ : Type) (store : Dialogue.Responder Store.Operation (Except ε Store.Answer) σ) (state : σ),
        let answered := store.respond state o
        let run := ((Ending.ofResult result).close timeout lessonId).follow store none state
        run.questions = [o] ∧ run.state = answered.2.2 ∧
          ∃ status : Store.Status, run.result = some (answered.2.1.map fun _ => status)) ∧
      ∀ (now : Instant) (s : Store), ∃ (finished : Store.Record → Store.Record) (changed : Bool),
        o.perform now s = .ok (.finished changed, ⟨s.records.map fun row =>
          if row.lessonId = lessonId ∧ row.status = .generating then finished row else row⟩) ∧
        ∀ row, IsFinished row (finished row) := by
  let ending := Ending.ofResult result
  let w := FinalWrite.ofEnding timeout ending
  refine ⟨w.operation lessonId, FinalWrite.ofEnding_isFinishing timeout lessonId ending, ?_, ?_⟩
  · intro ε σ store state answered run
    have same : run = _ := Ending.close_follow timeout lessonId ending store state
    rw [same]
    exact ⟨rfl, rfl, w.status, rfl⟩
  · intro now s
    obtain ⟨changed, performed⟩ := FinalWrite.perform_ofEnding timeout ending lessonId now s
    refine ⟨fun row => w.finished now row, changed, performed.trans ?_, fun row =>
      FinalWrite.finished_isFinished now row w fun _ _ written => FinalWrite.ofEnding_filled written⟩
    simp only [← Store.isUnfinished_iff, w, ending]

/-- What becomes of a lesson whose making has ended: what is asked for if it is still generating, and nothing
otherwise. -/
theorem Ending.close_find? (timeout : Int) (lessonId : Text) (ending : Ending) (now : Instant) (s : Store) :
    ((ending.close timeout lessonId).follow (storeAt now) none s).state.find? lessonId =
      (s.find? lessonId).map fun row =>
        if row.status = .generating then (FinalWrite.ofEnding timeout ending).finished now row else row := by
  obtain ⟨changed, performed⟩ := FinalWrite.perform_ofEnding timeout ending lessonId now s
  rw [close_follow]
  simp only [storeAt, Store.Operation.after]
  rw [performed]
  refine (Store.find?_updateWhere (Store.isUnfinished lessonId) _ (fun row => FinalWrite.finished_lessonId now row _)
    s lessonId).trans ?_
  cases found : s.find? lessonId with
  | none => rfl
  | some row => simp [Store.isUnfinished, Store.lessonId_of_find? found]

/-- A run reports what it asked for, whatever has happened to the lesson before. Where the lesson is still
generating, it becomes what is reported; where it is not, it stays what it is, and what is reported may not be
true. A lesson that was generating at first is so unless another write or a sweep has finished it. -/
theorem reported_unless_outrun (timeout : Int) (result : Option (Except Failure Lesson)) (lessonId : Text)
    (now : Instant) {s : Store} (unique : s.HasUniqueIds) (steps : List (Instant × Store.Operation)) :
    let before := s.afterAll steps
    let run := ((Ending.ofResult result).close timeout lessonId).follow (storeAt now) none before
    (∃ status, run.result = some (.ok status) ∧ ∀ row, run.state.find? lessonId = some row →
      if before.isOpen lessonId then row.status = status else before.find? lessonId = some row) ∧
    (s.isOpen lessonId = true → s.creations lessonId steps = 0 →
      (before.isOpen lessonId = true ↔ s.finishings lessonId steps = 0)) := by
  intro before run
  constructor
  · let w := FinalWrite.ofEnding timeout (Ending.ofResult result)
    refine ⟨w.status, ?_, ?_⟩
    · obtain ⟨changed, performed⟩ := FinalWrite.perform_ofEnding timeout (Ending.ofResult result) lessonId now before
      have same : run = _ := Ending.close_follow timeout lessonId (Ending.ofResult result) (storeAt now) before
      rw [same]
      simp only [storeAt]
      rw [performed]
      rfl
    · intro row left
      have found := left.symm.trans (Ending.close_find? timeout lessonId (Ending.ofResult result) now before)
      obtain ⟨old, stored, became⟩ := Option.map_eq_some_iff.mp found.symm
      have opened : before.isOpen lessonId = decide (old.status = .generating) := by rw [Store.isOpen, stored]; rfl
      rw [opened]
      by_cases unfinished : old.status = .generating
      · simp only [unfinished, if_true, decide_true] at became ⊢
        rw [← became, FinalWrite.finished_status]
      · simp only [unfinished, if_false, decide_false] at became ⊢
        simpa [became] using stored
  · intro opened uncreated
    have counted : 1 = s.finishings lessonId steps + (before.isOpen lessonId).toNat := by
      simpa [opened, uncreated] using unique.balance lessonId steps
    cases still : before.isOpen lessonId with
    | false => simp [still] at counted; simp [← counted]
    | true => simpa [still] using counted

/-- Another task has generated the lesson before the time of this one is up. -/
theorem reported_unless_outrun_generated :
    let s : Store := ⟨[.start ⟨0⟩ "a" "b" "c"]⟩
    let before := s.afterAll [(⟨1⟩, .markGenerated "a" "d" "e")]
    let run := ((Ending.ofResult none).close 600 "a").follow (storeAt ⟨2⟩) none before
    s.HasUniqueIds ∧ ¬before.isOpen "a" = true ∧ run.result.map Except.toOption = some (some .failed) ∧
      ∃ row, before.find? "a" = some row ∧ row.status = .generated ∧ run.state.find? "a" = some row := by
  intro s before run
  have unique : s.HasUniqueIds := List.nodup_singleton _
  obtain ⟨⟨status, reported, kept⟩, outrun⟩ :=
    reported_unless_outrun 600 none "a" ⟨2⟩ unique [(⟨1⟩, .markGenerated "a" "d" "e")]
  have finished := (outrun (by decide +kernel) (by decide +kernel)).not.mpr (by decide +kernel)
  have failed : run.result.map Except.toOption = some (some .failed) := by decide +kernel
  have generated : (run.state.find? "a").map Store.Record.status = some .generated := by decide +kernel
  obtain ⟨row, left, status⟩ := Option.map_eq_some_iff.mp generated
  have same := kept row left
  rw [if_neg finished] at same
  exact ⟨unique, finished, failed, row, same, status, left⟩

/-- A sweep has failed the lesson while its code was made. The run reports that it generated the lesson. -/
theorem reported_outrun_by_sweep :
    let s : Store := ⟨[.start ⟨0⟩ "a" "b" "c"]⟩
    let before := s.afterAll [(⟨2⟩, .failStuck ⟨1⟩ "Generation timeout after 10 minutes")]
    let code : Text := List.replicate 80 (⟨0x78⟩ : CodePoint) ++ (" export default function return" : Text)
    let run := ((Ending.ofResult (some (.ok ⟨code, "d", 1, []⟩))).close 600 "a").follow (storeAt ⟨3⟩) none before
    run.result.map Except.toOption = some (some .generated) ∧
      (run.state.find? "a").map Store.Record.status = some .failed := by
  decide +kernel

end LessonService.Generation
