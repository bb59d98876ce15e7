import LessonService.CommandLine.Outcome

namespace LessonService.CommandLine

/-- All lines of a stream. -/
partial def readLines (input : IO.FS.Stream) (lines : Array Text := #[]) : IO (List Text) := do
  let line ← input.getLine
  if line.isEmpty then return lines.toList
  readLines input (lines.push (Text.trim (Text.ofString line)))

def readEnvironment : IO Environment := do
  let values ← Settings.variableNames.mapM fun name => do
    let value ← IO.getEnv name
    return value.map fun v => (Text.ofString name, Text.ofString v)
  return values.filterMap id

def writeLines (output : IO.FS.Stream) (lines : List Text) : IO Unit :=
  lines.forM fun line => output.putStrLn line.toString

def run (words : List Text) : IO UInt32 := do
  let input ← if readsInput words then readLines (← IO.getStdin) else pure []
  let o := outcome (← readEnvironment) words input
  writeLines (← IO.getStdout) o.output
  writeLines (← IO.getStderr) o.log
  return o.status.toUInt32

end LessonService.CommandLine

/-- Reads the time and the lessons from the standard input and writes those that are left to the standard output. -/
def main (args : List String) : IO UInt32 := LessonService.CommandLine.run (args.map LessonService.Text.ofString)
