import LessonService.Generation.Run
import LessonService.Quota
import LessonService.Request.Admission
import LessonService.Sandbox
import LessonService.Script.Compile
import LessonService.Settings
import LessonService.Web.Body
import LessonService.Web.Origin
import LessonService.Web.Problem
import LessonService.Web.Query
import LessonService.Web.Route

namespace LessonService.Web

open LessonService.Generation (Ending FinalWrite)

/-- Somebody who makes lessons: how the making of one ends within so many seconds. -/
structure Maker (σ : Type) where
  make : Rat → Generation.Request → σ → Ending × σ

/-- What is drawn at random: identities by their number, what pages are signed with, and the number from 0 to 1 that
decides whether old windows are dropped at a request. -/
structure Draws where
  requestId : Nat → Text
  lessonId : Nat → Text
  nonce : Text
  roll : Nat → Number

/-- The service as its clients see it. -/
structure Service (σ : Type) where
  settings : Settings
  sharing : Sharing
  draws : Draws
  /-- Nobody makes lessons if the models are not to be had. -/
  maker : Option (Maker σ)
  makerState : σ
  store : Store := {}
  generationQuota : Quota.Guard
  compileQuota : Quota.Guard
  requestsSeen : Nat := 0
  lessonsAsked : Nat := 0

/-- What pages of some origins may do with the service. -/
def sharingWith (origins : List Text) : Sharing where
  origins
  methods := ["GET", "POST", "OPTIONS"]
  headers := ["content-type"]
  exposed := [
    "content-length", "x-request-id", "x-ratelimit-limit", "x-ratelimit-remaining", "x-ratelimit-reset",
    "retry-after"]

/-- A service that has not been asked anything yet. -/
def Service.start (settings : Settings) (draws : Draws) (maker : Option (Maker σ)) (makerState : σ) : Service σ where
  settings
  sharing := sharingWith settings.allowedOrigins
  draws
  maker
  makerState
  generationQuota := { cleanupProbability := .real settings.cleanupProbability }
  compileQuota := { cleanupProbability := .real settings.cleanupProbability }

abbrev Handler (σ α : Type) := ExceptT Problem (StateM (Service σ)) α

/-- An answer, and the lesson that is to be made after it. -/
structure Reply where
  response : Response
  work : Option Generation.Request := none

section

variable {σ : Type}

def refuse (status : Int) (detail : Content) : Handler σ α := throw (.refused status detail [])

def orElse (p : Problem) (e : Except ε α) : Handler σ α :=
  match e with
  | .ok a => pure a
  | .error _ => throw p

def answerWith (headers : Headers) (c : Content) : Handler σ Response :=
  orElse .unforeseen (Response.ofContent 200 headers c)

/-- The time in milliseconds, as a clock of double precision gives it. -/
def clockMillis (now : Instant) : Number :=
  .real (Double.round (((Double.round ((now.micros : Rat) / 1000000)).value?).getD 0 * 1000))

/-- What a request is counted by. -/
structure Meter where
  guard : Quota.Guard
  windowMillis : Int
  limit : Int
  /-- The random number that is drawn when the request is counted. -/
  roll : Number

def Service.generationMeter (s : Service σ) : Meter :=
  ⟨s.generationQuota, s.settings.generationWindow, s.settings.generationLimit, s.draws.roll s.requestsSeen⟩

def Service.compileMeter (s : Service σ) : Meter :=
  ⟨s.compileQuota, s.settings.compileWindow, s.settings.compileLimit, s.draws.roll s.requestsSeen⟩

namespace Meter

/-- A request as it is counted. -/
def visit (m : Meter) (now : Instant) (r : Request) : Quota.Visit :=
  ⟨Quota.clientKey r.headers.get? r.peer, m.windowMillis, m.limit, clockMillis now, m.roll⟩

/-- What a decision comes to: headers for the answer, or a delay if there have been too many requests. -/
def verdict (m : Meter) (d : Quota.Decision) : Except Overflow (Except Problem Headers) := do
  let headers ← d.headers
  if d.isAllowed then return .ok headers
  else
    let seconds ← d.retryAfter
    let message := "Too many requests. Maximum " ++ (← Decimal.written m.limit) ++ " requests per minute. Try again in "
      ++ (← Quota.delayText seconds) ++ "."
    return .error (.pipeline (.quotaExceeded message seconds (some m.limit) headers))

/-- Counts a request, and answers it with a delay if there have been too many. -/
def count (m : Meter) (now : Instant) (r : Request) : Except Problem Headers × Quota.Guard :=
  let (outcome, g) := m.guard.admitVisit (m.visit now r)
  match outcome with
  | .error _ => (.error .unforeseen, g)
  | .ok d =>
    match m.verdict d with
    | .error _ => (.error .unforeseen, g)
    | .ok answer => (answer, g)

end Meter

/-- Counts a request for a lesson. -/
def enforceGeneration (now : Instant) (r : Request) : Handler σ Headers := do
  let s ← get
  let (outcome, g) := s.generationMeter.count now r
  set { s with generationQuota := g }
  MonadExcept.ofExcept outcome

/-- Counts a request that has code compiled. -/
def enforceCompilation (now : Instant) (r : Request) : Handler σ Headers := do
  let s ← get
  let (outcome, g) := s.compileMeter.count now r
  set { s with compileQuota := g }
  MonadExcept.ofExcept outcome

def requireStore : Handler σ Unit := do
  if (← get).settings.hasStore then pure () else refuse 503 (.text "Lesson storage is not available")

def requireMaker : Handler σ Unit := do
  if (← get).maker.isSome then pure () else refuse 503 (.text "Lesson generation is not available")

/-- What has arrived as the body of a request. -/
def received (r : Request) : Handler σ Body.Received :=
  match Body.receive r with
  | .ok body => pure body
  | .error .unreadable => refuse 400 (.text "There was an error parsing the body")
  | .error (.faulty faults) => throw (.invalid (faults.map (·.describe)))

/-- What has been read from a request, unless there are faults in it. -/
def faultless (e : Except (List Request.PlacedFault) α) : Handler σ α :=
  match e with
  | .ok a => pure a
  | .error faults => throw (.invalid (faults.map (·.describe)))

def instantText (i : Instant) : Text := { i.toDateTime with offset := none }.toText "T" ++ "Z"

def lessonContent (r : Store.Record) : Content := .record [
  ("id", .text r.lessonId), ("title", .text r.title), ("outline", .text r.outline), ("status", .text r.status.name),
  ("generated_content", Content.ofOption .text r.content), ("error_message", Content.ofOption .text r.message),
  ("created_at", .text (instantText r.createdAt)), ("updated_at", .text (instantText r.updatedAt))]

def pageContent (q : Store.ListQuery) (p : Store.Page) : Content := .record [
  ("lessons", .list (p.items.map lessonContent)),
  ("pagination", .record [
    ("page", Content.ofInt q.page), ("limit", Content.ofInt q.limit), ("total", Content.ofInt p.total),
    ("total_pages", Content.ofInt p.count), ("has_next", .flag (q.page < p.count)), ("has_prev", .flag (1 < q.page))])]

def statsContent (s : Store.Stats) : Content := .record [
  ("total", Content.ofInt s.total), ("generating", Content.ofInt s.generating),
  ("generated", Content.ofInt s.generated), ("failed", Content.ofInt s.failed)]

def duplicateMessage : Store.Status → Text
  | .generated => "This lesson was recently generated. Check your lesson list."
  | _ => "A similar lesson is already being generated. Please wait for it to complete."

def duplicateDetail (existing : Store.Record) : Content := .record [
  ("error", .text (duplicateMessage existing.status)), ("existing_lesson_id", .text existing.lessonId)]

def version : Text := "0.1.0"

def health : Handler σ Response := answerWith [] (.record [("status", .text "ok"), ("version", .text version)])

/-- Takes an outline up, unless there is something against it. -/
def admitted (outline : Text) : Handler σ Text := do
  let outline := Text.trim outline
  if outline.isEmpty then refuse 400 (.text "Lesson outline is required")
  else
    match Request.rejection? outline with
    | none => pure outline
    | some rejection =>
      throw (.pipeline (.admissionRejected rejection.error rejection.stage.name (some (Request.suggestion outline))))

/-- Points to a lesson that has the same outline and was asked for not long ago. -/
def refuseDuplicate (now : Instant) (outline : Text) : Handler σ Unit := do
  let s ← get
  let since ← orElse .unforeseen (now.minusSeconds s.settings.duplicateWindow)
  match s.store.findDuplicate? outline since with
  | none => pure ()
  | some existing => refuse 409 (duplicateDetail existing)

/-- Stores a new lesson. -/
def createLesson (now : Instant) (outline : Text) : Handler σ Store.Record := do
  let s ← get
  let number := s.lessonsAsked + 1
  set { s with lessonsAsked := number }
  let (record, store) ← orElse .unforeseen (s.store.create now (s.draws.lessonId number) outline Store.interimTitle)
  set { s with lessonsAsked := number, store := store }
  return record

/-- Takes up a request for a lesson. -/
def generate (now : Instant) (r : Request) : Handler σ Reply := do
  let body ← received r
  let headers ← enforceGeneration now r
  requireStore
  requireMaker
  let outline ← admitted (← faultless (Body.onlyText "outline" body))
  refuseDuplicate now outline
  let record ← createLesson now outline
  let response ← answerWith headers (.record [("lesson", lessonContent record)])
  return ⟨response, some { lessonId := record.lessonId, outline }⟩

def list (r : Request) : Handler σ Response := do
  requireStore
  let query ← faultless (Query.listQuery r.query)
  let page ← orElse .unforeseen ((← get).store.list query)
  answerWith [] (pageContent query page)

def stats : Handler σ Response := do
  requireStore
  answerWith [] (statsContent (← get).store.stats)

/-- A lesson that is there. -/
def found (id : Text) : Handler σ Store.Record := do
  match (← get).store.find? id with
  | some record => return record
  | none => refuse 404 (.text "Lesson not found")

def lesson (id : Text) : Handler σ Response := do
  requireStore
  answerWith [] (lessonContent (← found id))

/-- Whether a lesson is there, and what has become of it. -/
def lessonStatus (id : Text) : Handler σ Response := do
  requireStore
  let record := (← get).store.find? id
  answerWith [] (.record [
    ("exists", .flag record.isSome), ("status", Content.ofOption (fun r => .text r.status.name) record),
    ("error_message", Content.ofOption .text (record.bind (·.message)))])

def compiled (source : Text) : Handler σ Script.Compiled := do
  let settings := (← get).settings
  match Script.compile ⟨settings.compileMaxChars, settings.compileMinChars⟩ source with
  | .ok c => return c
  | .error e =>
    match e.status? with
    | some status => throw (.pipeline (.compilationFailed e.message status))
    | none => throw .unforeseen

def compile (now : Instant) (r : Request) : Handler σ Response := do
  let body ← received r
  let headers ← enforceCompilation now r
  let c ← compiled (← faultless (Body.onlyText "code" body))
  answerWith headers (.record [
    ("success", .flag true), ("compiledCode", .text c.code), ("warnings", .list (c.diagnostics.map .text))])

/-- The code of a lesson that can be shown. -/
def showable (record : Store.Record) : Handler σ Text :=
  match record.status, record.content with
  | .generated, some (c :: code) => pure (c :: code)
  | _, _ => refuse 409 (.record [
      ("error", .text ("Lesson is not ready (status: " ++ record.status.name ++ ")")),
      ("status", .text record.status.name)])

/-- Shows a lesson in a sandbox. -/
def sandbox (now : Instant) (r : Request) (id : Text) : Handler σ Response := do
  let _ ← enforceCompilation now r
  requireStore
  let s ← get
  let runtime ← orElse .unforeseen
    (Sandbox.Runtime.ofAddresses s.settings.reactUrl s.settings.reactDomUrl s.settings.tailwindUrl)
  let record ← found id
  let c ← compiled (← showable record)
  let document := Sandbox.build runtime s.draws.nonce record.title c.code
  return .ofPage document.headers document.html

def atEndpoint (now : Instant) (r : Request) : Endpoint → Handler σ Reply
  | .health => return ⟨← health, none⟩
  | .generate => generate now r
  | .list => return ⟨← list r, none⟩
  | .stats => return ⟨← stats, none⟩
  | .lesson id => return ⟨← lesson id, none⟩
  | .lessonStatus id => return ⟨← lessonStatus id, none⟩
  | .sandbox id => return ⟨← sandbox now r id, none⟩
  | .compile => return ⟨← compile now r, none⟩

def routed (now : Instant) (r : Request) : Handler σ Reply :=
  match Route.ofRequest r with
  | .found e => atEndpoint now r e
  | .otherMethod allowed => throw (.refused 405 (.text "Method Not Allowed") [("allow", allowed)])
  | .moved location => return ⟨⟨307, [("location", location)], []⟩, none⟩
  | .unknown => refuse 404 (.text "Not Found")

/-- The answer to a request, whatever has become of it. What nobody has provided for is answered
without the headers that other answers have. -/
def answered (sharing : Sharing) (r : Request) (requestId : Text) : Except Problem Reply → Reply
  | .ok reply => { reply with response := finished reply.response }
  | .error .unforeseen => ⟨Problem.blankResponse requestId, none⟩
  | .error p =>
    match p.response (some requestId) with
    | .ok response => ⟨finished response, none⟩
    | .error _ => ⟨Problem.blankResponse requestId, none⟩
where
  /-- The answer with the headers that every answer has. -/
  finished (a : Response) : Response :=
    let a := sharing.mark r a
    { a with headers := (a.headers.tagged requestId).secured }

/-- The answer to a page that asks beforehand. -/
def answerQuestion (sharing : Sharing) (requestId : Text) (r : Request) (origin method : Text) : Response :=
  let a := sharing.answer origin method r.headers
  { a with headers := (a.headers.tagged requestId).secured }

/-- An answer to a request to tell only about another one has no body. -/
def bodiless (r : Request) (a : Response) : Response := if r.method = ("HEAD" : Text) then { a with body := [] } else a

/-- Makes a lesson that has been asked for, and finishes it in the store if that can be done. -/
def Service.finish (s : Service σ) (now : Instant) (work : Generation.Request) : Service σ :=
  match s.maker with
  | none => s
  | some maker =>
    let (ending, makerState) := maker.make s.settings.generationTimeout work s.makerState
    let s := { s with makerState }
    match (FinalWrite.ofEnding s.settings.generationTimeout ending).apply s.store now work.lessonId with
    | .ok store => { s with store }
    | .error _ => s

/-- Answers a request, and says what is to be made after it. -/
def Service.reply (s : Service σ) (now : Instant) (r : Request) : Reply × Service σ :=
  let number := s.requestsSeen + 1
  let requestId := s.draws.requestId number
  let s := { s with requestsSeen := number }
  match Sharing.question? r with
  | some (origin, method) => (⟨answerQuestion s.sharing requestId r origin method, none⟩, s)
  | none =>
    let (outcome, after) := (routed now r).run.run s
    (answered s.sharing r requestId outcome, after)

/-- Answers a request, and does what is to be done after it. -/
def Service.serve (s : Service σ) (now : Instant) (r : Request) : Response × Service σ :=
  let (reply, s) := s.reply now r
  (bodiless r reply.response, reply.work.elim s fun work => s.finish now work)

end

end LessonService.Web
