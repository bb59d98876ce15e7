import LessonService.Database.Statement
import LessonService.Settings.DatabaseAddress

namespace LessonService.Database

/-- A revision, with what makes it and what takes it back. -/
structure Revision where
  id : Text
  forward : List Statement
  backward : List Statement

def revisionsDefinition : Table where
  name := revisionsTable
  columns := [⟨"version_num", .string (some 32), none, true⟩]
  constraints := [.primaryKey (some "alembic_version_pkc") "version_num"]

def lessonsDefinition : Table where
  name := lessonsTable
  columns := [
    ⟨"lesson_id", .string none, none, true⟩,
    ⟨"title", .string none, none, true⟩,
    ⟨"outline", .text, none, true⟩,
    ⟨"status", .string none, some (.value "generating"), true⟩,
    ⟨"generated_content", .text, none, false⟩,
    ⟨"error_message", .text, none, false⟩,
    ⟨"created_at", .time, some .now, true⟩,
    ⟨"updated_at", .time, some .now, true⟩]
  constraints := [
    .primaryKey none "lesson_id",
    .check "ck_lessons_status" "status IN ('generating', 'generated', 'failed')",
    .check "ck_lessons_content_iff_generated" "(status = 'generated') = (generated_content IS NOT NULL)",
    .check "ck_lessons_error_iff_failed" "(status = 'failed') = (error_message IS NOT NULL)"]

def lessonsIndex : Text := "ix_lessons_status_created_at"

def history : List Revision := [{
  id := "4f2a9c1d7e10"
  forward := [.createTable lessonsDefinition, .createIndex lessonsIndex lessonsTable ["status", "created_at"]]
  backward := [.dropIndex lessonsIndex, .dropTable lessonsTable] }]

/-- An upgrade never goes back, and a downgrade never forward. -/
inductive Direction where
  | upgrade
  | downgrade
deriving DecidableEq

inductive MigrationError where
  | addressMissing
  | addressUnreadable
  | dialectUnknown
  | settings (e : SettingsError)
  | rangeForbidden
  | rangeMissing
  | rangeTooLong
  | unknownRevision (name : Text)
  /-- Fewer revisions than so many steps from where the database is. -/
  | tooFar (steps : Text) (count : Nat)
  /-- Fewer revisions than the steps from a revision. -/
  | walkedTooFar
  | notBelow (destination : Text)
deriving DecidableEq

def MigrationError.message : MigrationError → Text
  | addressMissing => "LESSONFORGE_PG_DSN must be set to run migrations."
  | addressUnreadable | dialectUnknown => []
  | settings e => e.message
  | rangeForbidden => "Range revision not allowed"
  | rangeMissing => "downgrade with --sql requires <fromrev>:<torev>"
  | rangeTooLong => "too many values to unpack (expected 2)"
  | unknownRevision name => "Can't locate revision identified by '" ++ name ++ "'"
  | tooFar steps count => "Relative revision " ++ steps ++ " didn't produce " ++ Text.ofNat count ++ " migrations"
  | walkedTooFar => "Walked too far"
  | notBelow destination =>
    "Destination " ++ destination ++ " is not a valid downgrade target from current head(s)"

/-- The place that a name stands for. A revision may be named by the start of its identity. -/
def place (name : Text) : Except MigrationError Nat :=
  if name = ("base" : Text) then .ok 0
  else if name = ("head" : Text) || name = ("heads" : Text) then .ok history.length
  else
    match history.findIdx? fun r => !name.isEmpty && name.isPrefixOf r.id with
    | some i => .ok (i + 1)
    | none => .error (.unknownRevision name)

/-- Steps from a revision, or from where the database is. -/
structure Walk where
  start : Text
  /-- The steps as they are written, with their sign. -/
  steps : Text
  isBack : Bool
  count : Nat

/-- The walk that a destination starts with. -/
def walk? (destination : Text) : Option Walk :=
  let start := destination.takeWhile CodePoint.isWord
  match destination.drop start.length with
  | sign :: rest =>
    let digits := rest.takeWhile fun c => c.digit?.isSome
    if (sign = '-' || sign = '+') && !digits.isEmpty then
      some ⟨start, sign :: digits, sign = '-', Decimal.ofDigits (digits.filterMap CodePoint.digit?)⟩
    else none
  | [] => none

/-- Where a walk ends that starts at a place. -/
def Walk.ending? (w : Walk) (start : Nat) : Option Nat :=
  if w.isBack then (if w.count ≤ start then some (start - w.count) else none)
  else if start + w.count ≤ history.length then some (start + w.count)
  else none

/-- The place where a destination lies. From where the database is, an upgrade steps forward only,
and a downgrade back only; going back further than to the start from a revision ends at the start. -/
def target (direction : Direction) (current : Nat) (destination : Text) : Except MigrationError Nat :=
  match walk? destination with
  | none => place destination
  | some w =>
    if w.start.isEmpty then
      let isAllowed : Bool := w.isBack == (direction == .downgrade) && (w.isBack || w.count ≠ 0)
      match w.ending? current with
      | some n => if isAllowed then .ok n else .error (.tooFar w.steps w.count)
      | none => .error (.tooFar w.steps w.count)
    else do
      let start ← place w.start
      match w.ending? start with
      | some n => return n
      | none => if w.isBack then return 0 else .error .walkedTooFar

/-- The revision that is recorded at a place. -/
def recordedAt (n : Nat) : Option Text := if n = 0 then none else (history[n - 1]?).map (·.id)

/-- What makes the revision after a place. -/
def stepForward (n : Nat) (r : Revision) : List Statement :=
  [.note ("Running upgrade " ++ (recordedAt n).getD [] ++ " -> " ++ r.id)] ++ r.forward ++ [.record (recordedAt n) r.id]

/-- What takes back the revision after a place. -/
def stepBack (n : Nat) (r : Revision) : List Statement :=
  [.note ("Running downgrade " ++ r.id ++ " -> " ++ (recordedAt n).getD [])] ++ r.backward
    ++ [.record r.id (recordedAt n)]

/-- The revisions between two places, each with the place before it. -/
def between (low high : Nat) : List (Nat × Revision) :=
  ((history.zipIdx.drop low).take (high - low)).map fun (r, n) => (n, r)

/-- The statements on the way to a destination. -/
def path (direction : Direction) (current : Nat) (destination : Text) : Except MigrationError (List Statement) := do
  let n ← target direction current destination
  match direction with
  | .upgrade => return (between current n).flatMap fun (n, r) => stepForward n r
  | .downgrade =>
    if current < n then .error (.notBelow destination)
    else return (between n current).reverse.flatMap fun (n, r) => stepBack n r

/-- Where a script starts, if that is said, and where it leads. -/
def range (direction : Direction) (t : Text) : Except MigrationError (Text × Text) :=
  match Text.splitOn ':' t, direction with
  | [start, destination], _ => .ok (start, destination)
  | [destination], .upgrade => .ok ("base", destination)
  | [_], .downgrade => .error .rangeMissing
  | _, _ => .error .rangeTooLong

def drivers : List (Text × Dialect) := [
  ("postgresql", .postgreSql), ("postgresql+asyncpg", .postgreSql), ("postgresql+psycopg", .postgreSql),
  ("postgresql+psycopg2", .postgreSql), ("postgresql+psycopg2cffi", .postgreSql), ("postgresql+pg8000", .postgreSql),
  ("sqlite", .sqlite), ("sqlite+aiosqlite", .sqlite), ("sqlite+pysqlite", .sqlite), ("sqlite+pysqlcipher", .sqlite)]

/-- The dialect that the database of an address speaks. -/
def dialectOf (address : Text) : Except MigrationError Dialect :=
  let name := address.takeWhile fun (c : CodePoint) => c.isWord || c = '+'
  if name.isEmpty || (Text.dropStart? "://" (address.drop name.length)).isNone then .error .addressUnreadable
  else
    match drivers.find? fun d => d.1 = name with
    | some (_, d) => .ok d
    | none => .error .dialectUnknown

/-- The address of the database, which has to be given. -/
def requiredAddress (e : Environment) : Except MigrationError Text := do
  let settings ← e.databaseSettings.mapError .settings
  match DatabaseAddress.toOpen settings with
  | none | some [] => .error .addressMissing
  | some address => return address

/-- The way from the start of a range to its end, as a script. It makes the table of revisions if it
starts from nothing. -/
def migrationScript (e : Environment) (direction : Direction) (t : Text) : Except MigrationError Text := do
  let (start, destination) ← range direction t
  let dialect ← dialectOf (← requiredAddress e)
  let current ← place start
  let steps ← path direction current destination
  let first : List Statement := if current = 0 && !steps.isEmpty then [.createTable revisionsDefinition] else []
  let all := first ++ steps
  return Statement.script dialect <|
    match dialect with
    | .postgreSql => [.openTransaction] ++ all ++ [.closeTransaction]
    | .sqlite => all

/-- The place of a database. -/
def placeOf (db : Database) : Nat := db.revisions.foldl (fun n id =>
  max n ((history.findIdx? fun r => r.id = id).elim 0 (· + 1))) 0

/-- The database with a table of revisions, which is made if nothing is recorded. -/
def withRevisions (db : Database) : Database :=
  if db.revisions.isEmpty && !db.has revisionsTable then (Statement.createTable revisionsDefinition).run db else db

/-- Brings a database to a destination. What fails after the table of revisions has been made leaves
that table behind. -/
def migrate (e : Environment) (direction : Direction) (destination : Text) (db : Database) :
    Except MigrationError Unit × Database :=
  if (':' : CodePoint) ∈ destination then (.error .rangeForbidden, db)
  else
    match requiredAddress e with
    | .error e => (.error e, db)
    | .ok _ =>
      let db := db.withRevisions
      match path direction (placeOf db) destination with
      | .error e => (.error e, db)
      | .ok steps => (.ok (), Statement.runAll db steps)

end LessonService.Database
