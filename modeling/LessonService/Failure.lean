import LessonService.Text.Letters

namespace LessonService

inductive PipelineError where
  | admissionRejected (message stage : Text) (suggestion : Option Text)
  | quotaExceeded (message : Text) (retryAfter : Int) (limit : Option Int) (headers : List (Text × Text))
  | validationRejected (violations : List Text) (attempts : Int)
  | compilationFailed (message : Text) (status : Int)
  | timeoutExceeded (seconds : Int)
  | transportFailure (message : Text)

/-- Texts in lines that are numbered from one. -/
def numbered (ts : List Text) : Text :=
  Text.join "\n" (ts.zipIdx.map fun (t, i) => Text.ofNat (i + 1) ++ ". " ++ t)

namespace PipelineError

def message : PipelineError → Text
  | admissionRejected m _ _ => m
  | quotaExceeded m _ _ _ => m
  | validationRejected violations attempts =>
    "Code validation failed after " ++ Text.ofInt attempts ++ " attempts.\n\nValidation Errors:\n"
      ++ numbered violations ++ "\n\nPlease try again with a clearer prompt."
  | compilationFailed m _ => m
  | timeoutExceeded seconds =>
    "Generation timeout after " ++ Text.ofInt (max 1 (seconds.fdiv 60)) ++ " minutes"
  | transportFailure m => m

def kind : PipelineError → Text
  | admissionRejected _ _ _ => "admission_rejected"
  | quotaExceeded _ _ _ _ => "quota_exceeded"
  | validationRejected _ _ => "validation_rejected"
  | compilationFailed _ _ => "compilation_failed"
  | timeoutExceeded _ => "timeout_exceeded"
  | transportFailure _ => "transport_failure"

def name : PipelineError → Text
  | admissionRejected _ _ _ => "AdmissionRejected"
  | quotaExceeded _ _ _ _ => "QuotaExceeded"
  | validationRejected _ _ => "ValidationRejected"
  | compilationFailed _ _ => "CompilationFailed"
  | timeoutExceeded _ => "TimeoutExceeded"
  | transportFailure _ => "TransportFailure"

/-- The status to answer a request with. -/
def status : PipelineError → Int
  | admissionRejected _ _ _ => 400
  | quotaExceeded _ _ _ _ => 429
  | compilationFailed _ s => s
  | _ => 500

end PipelineError

/-- A failure of the pipeline, or any other one, which is known by a name and a text. -/
inductive Failure where
  | pipeline (e : PipelineError)
  | other (name text : Text)

namespace Failure

def name : Failure → Text
  | pipeline e => e.name
  | other n _ => n

def text : Failure → Text
  | pipeline e => e.message
  | other _ t => t

/-- The text, or the name if there is none. -/
def describe (f : Failure) : Text := if f.text.isEmpty then f.name else f.text

/-- Signs that a provider wants to be asked later. -/
def quotaHints : List Text := [
  "resource exhausted", "resource_exhausted", "quota exceeded", "429", "too many requests", "rate limit"]

/-- Signs that a provider or a model cannot be reached. -/
def providerHints : List Text := [
  "unsupported model", "model not found", "no such model", "model is not available", "timeout",
  "timed out", "connection", "network", "api key", "unauthorized", "forbidden",
  "service unavailable", "bad gateway", "gateway", "openrouter", "gemini"]

def hasHint (hints : List Text) (f : Failure) : Bool :=
  let t := Text.lower f.text
  hints.any fun hint => Text.contains hint t

def isQuotaError (f : Failure) : Bool := f.hasHint quotaHints

def isProviderError (f : Failure) : Bool := f.hasHint providerHints || f.hasHint quotaHints

end Failure

end LessonService
