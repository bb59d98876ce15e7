import LessonService.Database
import LessonService.Maintenance
import LessonService.Settings.DatabaseAddress

namespace LessonService

/-- A service at work. Nothing can be done if its database cannot be reached, and hardly anything before the tables
have been made. -/
structure Deployment where
  settings : Settings
  isReachable : Bool
  database : Database

namespace Deployment

inductive Work where
  | operation (o : Store.Operation)
  /-- A sweep for the time of the clock or another one. -/
  | sweep (time : Option Instant)
  /-- A sweep that may keep failed lessons for other than the usual number of days. -/
  | cleanUp (days : Option Int)
  /-- The sweep when the service starts, and the count of the lessons after it. -/
  | start

inductive Answer where
  | store (a : Store.Answer)
  | report (r : Maintenance.Report)
  | cleaned

inductive WorkError where
  | notConfigured
  | retentionNotPositive
  | time (e : TimeError)
  | address (e : Address.Fault)
  | access (e : Database.AccessError)

def WorkError.message : WorkError → Text
  | notConfigured => "Database connection is not configured (LESSONFORGE_PG_DSN is missing)."
  | retentionNotPositive => "--retention-days must be a positive integer."
  | time e => e.message
  | address e => e.message
  | access .lessonsMissing => []
  | access (.refused e) => e.message

/-- A deployment as its settings describe it. -/
def ofSettings (settings : Settings) (database : Database) : Deployment :=
  ⟨settings, settings.hasStore, database⟩

def require (d : Deployment) : Except WorkError Unit := if d.isReachable then .ok () else .error .notConfigured

def operate (d : Deployment) (now : Instant) (o : Store.Operation) : Except WorkError (Store.Answer × Deployment) := do
  d.require
  let (a, database) ← (d.database.perform now o).mapError .access
  return (a, { d with database })

/-- Sweeps for some time, and keeps failed lessons for some days. -/
def sweep (d : Deployment) (days : Int) (time now : Instant) : Except WorkError (Maintenance.Report × Deployment) := do
  d.require
  let c ← (Maintenance.cutoffs { d.settings with retentionDays := days } time).mapError .time
  let swept (s : Store) : Except Store.StoreError (Maintenance.Report × Store) :=
    .ok (Maintenance.sweepAt d.settings.generationTimeout c now s)
  let (r, database) ← (d.database.onLessons swept).mapError .access
  return (r, { d with database })

def cleanUp (d : Deployment) (days : Option Int) (now : Instant) : Except WorkError (Maintenance.Report × Deployment) :=
  let days := days.getD d.settings.retentionDays
  if days ≤ 0 then .error .retentionNotPositive else d.sweep days now now

/-- The deployment after the service has started. Whether the sweep succeeds does not matter. -/
def started (d : Deployment) (now : Instant) : Except WorkError Deployment := do
  if d.settings.hasStore then
    let _ ← (DatabaseAddress.redact d.settings.dsn).mapError .address
    match d.sweep d.settings.retentionDays now now with
    | .ok (_, d) => return d
    | .error _ => return d
  else return d

def work (d : Deployment) (now : Instant) : Work → Except WorkError (Answer × Deployment)
  | .operation o => do
    let (a, d) ← d.operate now o
    return (.store a, d)
  | .sweep time => do
    let (r, d) ← d.sweep d.settings.retentionDays (time.getD now) now
    return (.report r, d)
  | .cleanUp days => do
    let (_, d) ← d.cleanUp days now
    return (.cleaned, d)
  | .start => do
    let (a, d) ← (← d.started now).operate now .stats
    return (.store a, d)

end Deployment

end LessonService
