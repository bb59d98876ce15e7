import LessonService.Script.Emission
import LessonService.Script.Hazards
import LessonService.Script.Plain
import LessonService.Number.Double

namespace LessonService.Script

structure Compiled where
  code : Text
  diagnostics : List Text

/-- The sizes a source may have, in characters. -/
structure Limits where
  most : Int := 500000
  least : Int := 100

inductive CompileError where
  | missing
  | tooLarge (length : Nat) (most : Int)
  | tooShort
  | unpaired (line : Nat)
  | foreign (modules : List Text)
  | tooDeep
  | empty
  | hazardous
  /-- The source could not be written, and nobody has provided for that. -/
  | unforeseen (cause : EmissionError)

namespace CompileError

def message : CompileError → Text
  | missing => "Code is required"
  | tooLarge length most =>
    "Code is too large (" ++ Text.ofNat (Double.roundQuotient length 1000) ++ "KB). Maximum allowed: "
      ++ Text.ofInt (most.fdiv 1000) ++ "KB"
  | tooShort => "Code is too short to be a valid component"
  | unpaired line => "Code contains an invalid character at line " ++ Text.ofNat line
  | foreign modules =>
    "Code imports unsupported modules: " ++ Text.join ", " (modules.map fun m => "\"" ++ m ++ "\"")
      ++ " (only React imports allowed)"
  | tooDeep => "Code is nested too deeply to compile"
  | empty => "Compilation produced empty output. The code may be invalid."
  | hazardous => "Compiled code contains unsafe patterns and cannot be executed"
  | unforeseen cause => cause.message

/-- The status to answer with; none where nobody has provided for the failure. -/
def status? : CompileError → Option Nat
  | missing | tooShort | unpaired _ | foreign _ => some 400
  | tooLarge _ _ => some 413
  | tooDeep | empty | hazardous => some 500
  | unforeseen _ => none

end CompileError

/-- The line of the first unpaired surrogate. -/
def unpairedLine? (source : Text) : Option Nat :=
  if source.any CodePoint.isUnpaired then
    some ((source.takeWhile fun c => !c.isUnpaired).count ⟨0x0A⟩ + 1)
  else none

/-- What is said of a source that is too large. The limit has to be written out, in thousands. -/
def oversize (length : Nat) (most : Int) : CompileError :=
  match writeFailure (most.fdiv 1000).natAbs with
  | some cause => .unforeseen cause
  | none => .tooLarge length most

/-- What is wrong with a source before it is compiled. -/
def refusal? (limits : Limits) (source : Text) : Option CompileError :=
  if source.isEmpty then some .missing
  else if (source.length : Int) > limits.most then some (oversize source.length limits.most)
  else if ((Text.trim source).length : Int) < limits.least then some .tooShort
  else
    match unpairedLine? source with
    | some line => some (.unpaired line)
    | none => if (foreignTargets source).isEmpty then none else some (.foreign (foreignTargets source))

/-- The script of a source that has been accepted. -/
def compileAccepted (source : Text) : Except CompileError Compiled :=
  match transpile (toScript source) with
  | .error .tooDeep => .error .tooDeep
  | .error cause => .error (.unforeseen cause)
  | .ok written =>
    if Text.isBlank written.code then .error .empty
    else if !(Hazard.within written.code).isEmpty then .error .hazardous
    else .ok ⟨written.code, written.diagnostics.map Diagnostic.render⟩

/-- A script that a page can run, from the source of a lesson. -/
def compile (limits : Limits) (source : Text) : Except CompileError Compiled :=
  match refusal? limits source with
  | some e => .error e
  | none => compileAccepted source

end LessonService.Script
