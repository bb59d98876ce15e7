import LessonService.Store.Operation

namespace LessonService

/-- The tables and indexes that are there, and what is in them. -/
structure Database where
  /-- The names of the tables and indexes, in the order in which they were made. -/
  names : List Text := []
  lessons : Store := {}
  revisions : List Text := []

namespace Database

def lessonsTable : Text := "lessons"

def revisionsTable : Text := "alembic_version"

inductive AccessError where
  | lessonsMissing
  | refused (e : Store.StoreError)
deriving DecidableEq

def has (d : Database) (name : Text) : Bool := d.names.contains name

/-- The names in order. -/
def sortedNames (d : Database) : List Text := Text.sorted d.names

/-- The revisions that have been recorded, if there is a table for them. -/
def recorded? (d : Database) : Option (List Text) := if d.has revisionsTable then some d.revisions else none

/-- Works on the lessons, which are there only with their table. -/
def onLessons (d : Database) (work : Store → Except Store.StoreError (α × Store)) : Except AccessError (α × Database) :=
  if d.has lessonsTable then
    match work d.lessons with
    | .ok (a, lessons) => .ok (a, { d with lessons })
    | .error e => .error (.refused e)
  else .error .lessonsMissing

/-- An operation on the lessons. Some are refused whether there is a table or not. -/
def perform (d : Database) (now : Instant) (o : Store.Operation) : Except AccessError (Store.Answer × Database) :=
  match o.refusal? with
  | some e => .error (.refused e)
  | none => d.onLessons fun s => o.perform now s

end Database

end LessonService
