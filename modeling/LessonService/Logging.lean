import LessonService.Logging.Placeholder
import LessonService.Logging.RotatingFile
import LessonService.Settings

namespace LessonService.Logging

abbrev Level := Int

def levelName (level : Level) : Text :=
  if level = 50 then "CRITICAL"
  else if level = 40 then "ERROR"
  else if level = 30 then "WARNING"
  else if level = 20 then "INFO"
  else if level = 10 then "DEBUG"
  else "Level " ++ Text.ofInt level

/-- A logger that has been set up. Without a level of its own it has that of the one above it. -/
structure Logger where
  name : Text
  level : Option Level := none
  /-- Whether the logger writes by itself, instead of handing on what it gets. -/
  writes : Bool := false

def loggers : List Logger :=
  let server : List Text := ["uvicorn", "uvicorn.error", "uvicorn.access", "fastapi"]
  let clients : List Text := ["httpx", "httpcore", "google_genai", "openai"]
  (server.map fun name => { name, writes := true }) ++ clients.map fun name => { name, level := some 30 }

def rootLevel (s : Settings) : Level := if s.debug then 10 else 20

/-- Whether a logger is another one or below it. -/
def isBelow (name above : Text) : Bool := name = above || (above ++ ".").isPrefixOf name

/-- The level that holds for a logger. -/
def levelOf (root : Level) (name : Text) : Level :=
  let above := loggers.filter fun l => isBelow name l.name
  (above.reverse.findSome? Logger.level).getD root

structure Entry where
  logger : Text
  level : Level
  message : Text
  args : List Content := []
  /-- Failures, each the cause of the next. -/
  chain : List Failure := []

/-- A failure by its full name, with its text. -/
def failureText (f : Failure) : Text :=
  let name : Text :=
    match f with
    | .pipeline e => "app.ai.errors." ++ e.name
    | .other n _ => if n = ("HTTPException" : Text) then "fastapi.exceptions." ++ n else n
  if f.text.isEmpty then name ++ "\n" else name ++ ": " ++ f.text ++ "\n"

def causeText : Text := "\nThe above exception was the direct cause of the following exception:\n\n"

/-- The parts of a report about failures. -/
def chainParts : List Failure → List Text
  | [] => []
  | [f] => [failureText f]
  | f :: fs => failureText f :: causeText :: chainParts fs

/-- A report of at most six parts, or of its first and its last five. -/
def chainText (chain : List Failure) : Text :=
  let parts := chainParts chain
  if parts.length ≤ 6 then parts.flatten
  else (parts.take 1 ++ [Text.ofString "    ...\n"] ++ parts.drop (parts.length - 5)).flatten

/-- The lines of an entry, unless its message does not fit its values. -/
def Entry.lines? (now : Instant) (e : Entry) : Option Text := do
  let message ← fill? e.message e.args
  let name : Text := if e.logger.isEmpty then "root" else e.logger
  let clock := DateTime.clockText (now.toDateTime.micros / 1000000)
  let line := clock ++ " - " ++ name ++ " - " ++ levelName e.level ++ " - " ++ message
  let report := chainText e.chain
  let gap : Text := if report.isEmpty || line.getLast? = some ('\n' : CodePoint) then "" else "\n"
  return line ++ gap ++ report ++ "\n"

/-- The output of the service: what it has printed, and its file. -/
structure Logs where
  level : Level
  printed : Text := []
  file : RotatingFile

namespace Logs

def isEnabled (l : Logs) (e : Entry) : Bool := 0 < e.level && levelOf l.level e.logger ≤ e.level

def write (l : Logs) (now : Instant) (e : Entry) : Logs :=
  if l.isEnabled e then
    (e.lines? now).elim l fun lines => { l with printed := l.printed ++ lines, file := l.file.write lines }
  else l

end Logs

/-- The name of the file that is begun at some time. -/
def fileName (now : Instant) : Text :=
  let t := now.toDateTime
  let noMark (t : Text) : Text := t.filter fun (c : CodePoint) => c ≠ '-' && c ≠ ':'
  "lessonforge_" ++ noMark t.date.toText ++ "_" ++ noMark (DateTime.clockText (t.micros / 1000000)) ++ ".log"

def folder (root : Text) : Text := root ++ "/logs"

/-- What is said if the folder cannot be made because there is a file of its name. -/
def blockedMessage (root : Text) : Text :=
  "Failed to create log directory at " ++ folder root ++ ": [Errno 17] File exists: " ++ Literal.encode (folder root)

/-- The logs at the start, with the entry that says where they are. -/
def start (s : Settings) (root : Text) (now : Instant) : Logs :=
  let file : RotatingFile := {
    name := fileName now, maxBytes := s.logMaxBytes, keptCount := s.logBackupCount.toNat }
  let logs : Logs := { level := rootLevel s, file }
  logs.write now {
    logger := "app.core.logging", level := 20, message := "Logging initialized. Writing to %s"
    args := [.text (folder root ++ "/" ++ fileName now)] }

end LessonService.Logging
