import LessonService.Store

namespace LessonService.Store

/-- The operations on a store as values, so that a sequence of them is a list. -/
inductive Operation where
  | create (lessonId outline title : Text)
  | get (lessonId : Text)
  | findDuplicate (outline : Text) (since : Instant)
  | markGenerated (lessonId title content : Text)
  | markFailed (lessonId message : Text)
  | list (query : ListQuery)
  | stats
  | failStuck (olderThan : Instant) (message : Text)
  | deleteFailed (olderThan : Instant)

inductive Answer where
  | lesson (r : Option Record)
  | finished (changed : Bool)
  | page (p : Page)
  | stats (s : Stats)
  | count (n : Nat)

namespace Operation

/-- An operation at some time of the clock. -/
def perform (now : Instant) (s : Store) : Operation → Except StoreError (Answer × Store)
  | create lessonId outline title =>
    (s.create now lessonId outline title).map fun (r, s) => (.lesson (some r), s)
  | get lessonId => .ok (.lesson (s.find? lessonId), s)
  | findDuplicate outline since => .ok (.lesson (s.findDuplicate? outline since), s)
  | markGenerated lessonId title content =>
    (s.markGenerated now lessonId title content).map fun (changed, s) => (.finished changed, s)
  | markFailed lessonId message =>
    let (changed, s) := s.markFailed now lessonId message
    .ok (.finished changed, s)
  | list query => (s.list query).map fun p => (.page p, s)
  | stats => .ok (.stats s.stats, s)
  | failStuck olderThan message =>
    let (n, s) := s.failStuck now olderThan message
    .ok (.count n, s)
  | deleteFailed olderThan =>
    let (n, s) := s.deleteFailed olderThan
    .ok (.count n, s)

/-- The store after an operation, whether it was refused or not. -/
def after (now : Instant) (s : Store) (o : Operation) : Store :=
  match o.perform now s with
  | .ok (_, s) => s
  | .error _ => s

/-- Why an operation is refused before it reaches the store. -/
def refusal? : Operation → Option StoreError
  | markGenerated _ _ content => if content.isEmpty then some .contentMissing else none
  | _ => none

end Operation

/-- The store after operations, each at its time. -/
def afterAll (s : Store) (steps : List (Instant × Operation)) : Store :=
  steps.foldl (fun s (now, o) => o.after now s) s

end LessonService.Store
