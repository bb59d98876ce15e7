import LessonService.Web.Message
import LessonService.Web.Status

namespace LessonService.Web

/-- A problem that a request runs into. The answer that tells of it repeats neither what the client has sent nor what went
wrong inside. -/
inductive Problem where
  | pipeline (e : PipelineError)
  /-- A refusal with a status and details. -/
  | refused (status : Int) (detail : Content) (headers : Headers)
  /-- A request with faults. -/
  | invalid (errors : List Content)
  | unforeseen

/-- What every answer to a problem holds. -/
def payload (detail : Content) (error requestId : Option Text) : List (Text × Content) :=
  let standard : Text :=
    match detail with
    | .text t => t
    | _ => "Request failed"
  let always : List (Text × Content) := [("detail", detail), ("error", .text (error.getD standard))]
  match requestId with
  | some (c :: id) => always ++ [(Text.ofString "requestId", .text (c :: id))]
  | _ => always

def without (names : List Text) (fields : List (Text × Content)) : List (Text × Content) :=
  fields.filter fun f => !names.contains f.1

/-- An error without what was sent: neither in itself nor in its context. -/
def scrubbed (fields : List (Text × Content)) : List (Text × Content) :=
  (without ["input"] fields).map fun (n, v) =>
    match v with
    | .record context => (n, if n = ("ctx" : Text) then .record (without ["input"] context) else v)
    | _ => (n, v)

/-- Errors as they may be told, unless one of them goes too far down. -/
def sanitized (errors : List Content) : Option (List Content) :=
  errors.mapM fun
    | .record fields => (Content.record (scrubbed fields)).plain?
    | other => other.plain?

/-- The names of what clients send. -/
def sentNames : List Text := ["input", "body", "payload", "content", "code", "outline"]

mutual

/-- Details as they may be kept in a log. -/
def loggable : Content → Content
  | .record fields => .record (loggableFields fields)
  | .list items => .list (loggableItems items)
  | other => other

def loggableItems : List Content → List Content
  | [] => []
  | c :: cs => loggable c :: loggableItems cs

def loggableFields : List (Text × Content) → List (Text × Content)
  | [] => []
  | (n, c) :: fs => if sentNames.contains n then loggableFields fs else (n, loggable c) :: loggableFields fs

end

namespace Problem

def hidden : Content := .text "Internal Server Error"

/-- The body for a refusal with details: they are told one by one, under a common message. -/
def detailedPayload (fields : List (Text × Content)) (requestId : Option Text) : List (Text × Content) :=
  let given := (Content.field? "error" fields).getD .null
  let message : Text := if given.isVacant then "Request failed" else given.shown
  (without ["detail", "error"] fields).foldl (fun all (n, v) => Content.setField n v all)
    (payload (.text message) (some message) requestId)

def pipelinePayload (e : PipelineError) (requestId : Option Text) : List (Text × Content) :=
  let common := payload (.text e.message) none requestId ++ [(Text.ofString "kind", .text e.kind)]
  match e with
  | .admissionRejected _ stage suggestion =>
    let staged := common ++ [(Text.ofString "stage", .text stage)]
    match suggestion with
    | some (c :: t) => staged ++ [(Text.ofString "suggestion", .text (c :: t))]
    | _ => staged
  | .quotaExceeded _ retryAfter _ _ =>
    Content.setField "error" (.text "Rate limit exceeded") common
      ++ [(Text.ofString "retryAfter", Content.ofInt retryAfter)]
  | _ => common

def pipelineHeaders : PipelineError → Headers
  | .quotaExceeded _ retryAfter _ headers => Headers.set "Retry-After" (Text.ofInt retryAfter) headers
  | _ => []

/-- The answer to a request that ran into a problem. -/
def response (requestId : Option Text) : Problem → Except Content.RenderError Response
  | pipeline e => Response.ofContent e.status (pipelineHeaders e) (.record (pipelinePayload e requestId))
  | refused status detail headers =>
    let body :=
      if status ≥ 500 then payload hidden none requestId
      else
        match detail with
        | .record fields => detailedPayload fields requestId
        | other => payload other none requestId
    Response.ofContent status headers (.record body)
  | invalid errors =>
    match sanitized errors with
    | none => .error .tooDeep
    | some told => Response.ofContent 422 [] (.record (payload (.list told) (some "Invalid request") requestId))
  | unforeseen => Response.ofContent 500 [] (.record (payload hidden none requestId))

/-- The answer to a problem that nobody has provided for. -/
def blankResponse (requestId : Text) : Response :=
  match response (some requestId) unforeseen with
  | .ok r => r
  | .error _ => ⟨500, [], []⟩

end Problem

end LessonService.Web
