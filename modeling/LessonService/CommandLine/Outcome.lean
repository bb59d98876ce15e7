import LessonService.CommandLine
import LessonService.Deployment
import LessonService.Store.Snapshot

namespace LessonService.CommandLine

/-- What a run of the program gives: the lessons that are left, what it says, and a status. A command line that makes no
sense has the status 2, and everything else that fails has the status 1 and gives no lessons. -/
structure Outcome where
  output : List Text := []
  log : List Text := []
  status : Nat := 0

inductive InputError where
  | timeMissing
  | timeMalformed
  | lessonsMalformed
deriving DecidableEq

def InputError.message : InputError → Text
  | timeMissing => "the time is missing"
  | timeMalformed => "the first line is no time"
  | lessonsMalformed => "a line is no lesson"

/-- The time and the lessons of an input. -/
def readInput : List Text → Except InputError (Instant × Store)
  | [] => .error .timeMissing
  | time :: lines =>
    match Instant.ofText? time, Store.ofLines? lines with
    | some now, some s => .ok (now, s)
    | none, _ => .error .timeMalformed
    | _, none => .error .lessonsMalformed

def reportLine (r : Maintenance.Report) : Text :=
  "Cleanup finished stuck_failed=" ++ Text.ofNat r.stuckFailed ++ " failed_deleted=" ++ Text.ofNat r.failedDeleted

/-- Sweeps over the lessons of an input, or says what is wrong. -/
def swept (e : Environment) (days : Option Int) (input : List Text) : Except Text Outcome := do
  let settings ← e.settings.mapError SettingsError.message
  let (now, lessons) ← (readInput input).mapError InputError.message
  let database : Database := { names := [Database.lessonsTable], lessons }
  let (report, d) ←
    ((Deployment.ofSettings settings database).cleanUp days now).mapError Deployment.WorkError.message
  return { output := d.database.lessons.toLines, log := [reportLine report] }

/-- Whether a command line asks for anything that takes an input. -/
def readsInput (words : List Text) : Bool :=
  match read words with
  | .ok (.sweep _) => true
  | _ => false

def outcome (e : Environment) (words input : List Text) : Outcome :=
  match read words with
  | .ok .help => { output := [helpText] }
  | .ok (.sweep days) =>
    match swept e days input with
    | .ok o => o
    | .error message => { log := [message], status := 1 }
  | .error fault => { log := [usage, "sweep: error: " ++ fault.message], status := 2 }

end LessonService.CommandLine
