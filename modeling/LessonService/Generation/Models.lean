import LessonService.Generation.Orchestration
import LessonService.Json
import LessonService.Settings

namespace LessonService

namespace Provider

def models : Provider → List Text
  | gemini => [
    "gemini-2.5-pro", "gemini-2.5-flash", "gemini-2.0-flash", "gemini-pro-latest", "gemini-flash-latest"]
  | openRouter => [
    "google/gemini-2.0-flash-001", "google/gemini-2.5-flash", "openai/gpt-4o-mini", "openai/gpt-4o",
    "anthropic/claude-3.5-sonnet"]

def title : Provider → Text
  | gemini => "Gemini"
  | openRouter => "OpenRouter"

def keyName : Provider → Text
  | gemini => "GEMINI_API_KEY"
  | openRouter => "OPENROUTER_API_KEY"

/-- The key for a provider: the one of the settings, or else the variable as it stands. -/
def key? (p : Provider) (s : Settings) (e : Environment) : Option Text :=
  (match p with
    | gemini => s.geminiKey
    | openRouter => s.openRouterKey).or (e.filled? p.keyName)

end Provider

namespace Generation

structure Model where
  provider : Provider
  name : Text
deriving DecidableEq

inductive ModelError where
  | unknownProvider (mode : Text)
  | unsupported (provider : Provider) (name : Text)
  | keyMissing (provider : Provider)
deriving DecidableEq

def ModelError.message : ModelError → Text
  | unknownProvider mode => "Unsupported provider mode '" ++ mode ++ "'."
  | unsupported provider name => "Unsupported " ++ provider.title ++ " model '" ++ name ++ "'."
  | keyMissing provider => provider.keyName ++ " environment variable is required"

/-- A model of a provider, by default its standard one. -/
def Model.ofProvider (p : Provider) (s : Settings) (e : Environment) (name : Text) : Except ModelError Model :=
  let name := if name.isEmpty then p.defaultModel else name
  if !p.models.contains name then .error (.unsupported p name)
  else if (p.key? s e).isNone then .error (.keyMissing p)
  else .ok ⟨p, name⟩

def Model.find (mode : Text) (s : Settings) (e : Environment) (name : Text) : Except ModelError Model :=
  match Provider.ofName? mode with
  | some p => Model.ofProvider p s e name
  | none => .error (.unknownProvider mode)

/-- What is sent to the provider. -/
def Model.message (m : Model) (prompt : Text) : Json :=
  match m.provider with
  | .gemini => .record [("model", m.name), ("contents", prompt)]
  | .openRouter => .record [
      ("model", m.name), ("messages", .list [.record [("role", Text.ofString "user"), ("content", prompt)]])]

/-- The tokens that a provider has counted. -/
structure Counts where
  prompt : Option Int
  completion : Option Int
  total : Option Int

/-- What a provider sends back: the texts to choose from, and its counts. -/
structure Reply where
  texts : List (Option Text)
  counts : Option Counts

/-- The first text, or none at all. -/
def Reply.content (r : Reply) : Text := ((r.texts.head?).bind id).getD []

/-- The counts by name. One provider leaves out counts of zero. -/
def Reply.usage (p : Provider) (r : Reply) : Option (List (Text × Option Int)) :=
  r.counts.map fun c =>
    let count (n : Option Int) : Option Int :=
      match p with
      | .gemini => some (n.getD 0)
      | .openRouter => n
    [("prompt_tokens", count c.prompt), ("completion_tokens", count c.completion), ("total_tokens", count c.total)]

/-- The models that settings ask for: one for code, and one for titles. -/
structure Crew where
  coder : Model
  titler : Model
  /-- Titles and code are asked of one and the same model. -/
  isShared : Bool
  maxAttempts : Int

/-- Why settings give no crew. -/
inductive CrewError where
  | model (e : ModelError)
  | plan (e : PlanError)
deriving DecidableEq

def CrewError.message : CrewError → Text
  | model e => e.message
  | plan e => e.message

/-- The models are looked for first, then the bound on attempts is checked. -/
def Crew.ofSettings (s : Settings) (e : Environment) : Except CrewError Crew := do
  let model (name : Text) : Except CrewError Model := (Model.ofProvider s.provider s e name).mapError .model
  let coder ← model s.generationModel
  let isShared := decide (s.titleModel = s.generationModel)
  let titler ← (if isShared then .ok coder else model s.titleModel)
  let maxAttempts ← (ceiling s.maxAttempts).mapError .plan
  return ⟨coder, titler, isShared, maxAttempts⟩

end Generation

end LessonService
