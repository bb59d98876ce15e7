import LessonService.Store.Record

namespace LessonService

/-- The lessons, in the order in which they were created. -/
structure Store where
  records : List Store.Record := []

namespace Store

inductive StoreError where
  | duplicateId
  | contentMissing
  /-- A number that the database cannot hold. -/
  | numberTooGreat
deriving DecidableEq

def StoreError.message : StoreError → Text
  | duplicateId => "UNIQUE constraint failed: lessons.lesson_id"
  | contentMissing => "Generated lessons require content."
  | numberTooGreat => "Python int too large to convert to SQLite INTEGER"

def find? (s : Store) (lessonId : Text) : Option Record := s.records.find? fun r => r.lessonId = lessonId

/-- The record of a lesson that is about to be made. -/
def Record.start (now : Instant) (lessonId outline title : Text) : Record :=
  { lessonId, title, outline, status := .generating, createdAt := now, updatedAt := now }

def create (s : Store) (now : Instant) (lessonId outline title : Text) : Except StoreError (Record × Store) :=
  if (s.find? lessonId).isSome then .error .duplicateId
  else
    let record := Record.start now lessonId outline title
    .ok (record, ⟨s.records ++ [record]⟩)

/-- Whether a record is preferred as the one that an outline repeats: the later one, and of two
from the same moment the one that is still generating, or else the one that was stored later. -/
def isPreferred (last r : Record) : Bool :=
  last.createdAt.micros < r.createdAt.micros
    || (last.createdAt = r.createdAt && (r.status = .generating || last.status ≠ .generating))

/-- The newest lesson from some time on that has an outline and has not failed. -/
def findDuplicate? (s : Store) (outline : Text) (since : Instant) : Option Record :=
  let candidates := s.records.filter fun r =>
    r.outline = outline && r.status ≠ .failed && since.micros ≤ r.createdAt.micros
  candidates.foldl (fun last? r =>
    match last? with
    | none => some r
    | some last => if isPreferred last r then some r else some last) none

/-- Changes all records for which a condition holds, and counts them. -/
def updateWhere (holds : Record → Bool) (change : Record → Record) (s : Store) : Nat × Store :=
  (s.records.countP holds, ⟨s.records.map fun r => if holds r then change r else r⟩)

def isUnfinished (lessonId : Text) (r : Record) : Bool := r.lessonId = lessonId && r.status = .generating

/-- Whether a record has been generating since before some time. -/
def isStuck (olderThan : Instant) (r : Record) : Bool :=
  r.status = .generating && r.createdAt.micros < olderThan.micros

/-- Whether a record failed before some time. -/
def isExpired (olderThan : Instant) (r : Record) : Bool :=
  r.status = .failed && r.updatedAt.micros < olderThan.micros

/-- The record with what was made. -/
def Record.succeed (now : Instant) (title content : Text) (r : Record) : Record :=
  { r with status := .generated, title, content := some content, message := none, updatedAt := now }

/-- The record with the reason why nothing was made. -/
def Record.fail (now : Instant) (message : Text) (r : Record) : Record :=
  { r with status := .failed, content := none, message := some (capMessage message), updatedAt := now }

/-- The record with the reason why nobody makes it any more. Its content stays what it was. -/
def Record.abandon (now : Instant) (message : Text) (r : Record) : Record :=
  { r with status := .failed, message := some (capMessage message), updatedAt := now }

/-- Finishes a lesson if it is still generating, and says whether it was. -/
def finish (lessonId : Text) (change : Record → Record) (s : Store) : Bool × Store :=
  let (count, s) := updateWhere (isUnfinished lessonId) change s
  (count ≠ 0, s)

/-- Whoever comes after a lesson was finished leaves it as it is. -/
def markGenerated (s : Store) (now : Instant) (lessonId title content : Text) : Except StoreError (Bool × Store) :=
  if content.isEmpty then .error .contentMissing
  else .ok (finish lessonId (Record.succeed now title content) s)

def markFailed (s : Store) (now : Instant) (lessonId message : Text) : Bool × Store :=
  finish lessonId (Record.fail now message) s

/-- Fails the lessons that have been generating since before some time. -/
def failStuck (s : Store) (now olderThan : Instant) (message : Text) : Nat × Store :=
  updateWhere (isStuck olderThan) (Record.abandon now message) s

/-- Removes the lessons that failed before some time. -/
def deleteFailed (s : Store) (olderThan : Instant) : Nat × Store :=
  (s.records.countP (isExpired olderThan), ⟨s.records.filter fun r => !isExpired olderThan r⟩)

structure Stats where
  total : Nat
  generating : Nat
  generated : Nat
  failed : Nat

def stats (s : Store) : Stats :=
  let count (status : Status) : Nat := s.records.countP fun r => r.status = status
  ⟨count .generating + count .generated + count .failed, count .generating, count .generated, count .failed⟩

/-- The time that lessons are listed by. -/
inductive SortKey where
  | createdAt
  | updatedAt
deriving DecidableEq

def SortKey.of : SortKey → Record → Int
  | createdAt, r => r.createdAt.micros
  | updatedAt, r => r.updatedAt.micros

/-- The key of a name. Lessons are listed by their creation unless asked otherwise. -/
def SortKey.ofName (t : Text) : SortKey := if t = ("updated_at" : Text) then updatedAt else createdAt

structure ListQuery where
  page : Int
  limit : Int
  /-- Only lessons of this status; a name that no status has matches none. An empty name is none. -/
  status : Option Text := none
  key : SortKey := .createdAt
  ascending : Bool := false

structure Page where
  items : List Record
  total : Nat
  page : Int
  limit : Int

/-- How many pages a number of lessons takes. -/
def pageCount (total limit : Int) : Int := if limit = 0 then 0 else (total + limit - 1).fdiv limit

def Page.count (p : Page) : Int := pageCount p.total p.limit

/-- The order of a list: by time, and at the same time by identity. -/
def comesFirst (q : ListQuery) (a b : Record) : Bool :=
  let x := q.key.of a
  let y := q.key.of b
  if x = y then !(b.lessonId.map CodePoint.value < a.lessonId.map CodePoint.value)
  else if q.ascending then x < y else y < x

def matching (s : Store) (q : ListQuery) : List Record :=
  s.records.filter fun r =>
    match q.status with
    | none | some [] => true
    | some name => r.status.name = name

def fitsDatabase (n : Int) : Bool := -9223372036854775808 ≤ n && n ≤ 9223372036854775807

def ListQuery.offset (q : ListQuery) : Int := (q.page - 1) * q.limit

/-- A page of lessons. A negative limit is none. -/
def list (s : Store) (q : ListQuery) : Except StoreError Page :=
  if !fitsDatabase q.limit || !fitsDatabase q.offset then .error .numberTooGreat
  else
    let all := s.matching q
    let rest := (all.mergeSort (comesFirst q)).drop q.offset.toNat
    .ok ⟨if q.limit < 0 then rest else rest.take q.limit.toNat, all.length, q.page, q.limit⟩

end Store

end LessonService
