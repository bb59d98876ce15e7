import LessonService.Proofs.Web.Answers
import LessonService.Proofs.Web.Endings

namespace LessonService.Web

open Handler

variable {σ : Type} {s s' : Service σ} {now : Instant} {r : Request} {p : Problem} {d : Quota.Decision}
  {requestId : Text} {a : Response}

/-- An answer that tells of the window that its request was counted in. -/
structure Response.TellsWindow (d : Quota.Decision) (a : Response) : Prop where
  limit : a.headers.get? "x-ratelimit-limit" = some (Text.ofInt d.limit)
  remaining : a.headers.get? "x-ratelimit-remaining" = some (Text.ofInt d.remaining)
  reset : ∃ reset, d.resetAt.truncated = .ok reset ∧ a.headers.get? "x-ratelimit-reset" = some (Text.ofInt reset)

/-- An answer that tells how long to wait, in its headers and in its body. -/
structure Response.TellsDelay (d : Quota.Decision) (seconds : Int) (a : Response) : Prop where
  delay : d.retryAfter = .ok seconds
  header : a.headers.get? "retry-after" = some (Text.ofInt seconds)
  body : ∃ fields, (Content.record fields).render = .ok a.body ∧
    Content.field? "retryAfter" fields = some (.ofInt seconds)

/-- Names of headers that tell about a quota. -/
def quotaNames : List Text := ["x-ratelimit-limit", "x-ratelimit-remaining", "x-ratelimit-reset", "retry-after"]

theorem get?_finished {name : Text} (sharing : Sharing) (r : Request) (requestId : Text) (a : Response)
    (quota : name ∈ quotaNames) :
    (answered.finished sharing r requestId a).headers.get? name = a.headers.get? name := by
  have others : ∀ name ∈ quotaNames, name ∉ Headers.sharingNames ∧ name ∉ Headers.serverNames ∧
      name ≠ "x-request-id" ∧ name ≠ "x-content-type-options" := by decide
  obtain ⟨unshared, plain, tag, type⟩ := others name quota
  change ((sharing.mark r a).headers.tagged requestId).secured.get? name = _
  rw [Headers.get?_secured_of_notMem _ plain type, Headers.tagged, Headers.get?_setIfMissing_of_ne _ _ (Ne.symm tag),
    Headers.get?_mark sharing r a unshared]

theorem Response.TellsWindow.finished (tells : a.TellsWindow d) (sharing : Sharing) (r : Request) (requestId : Text) :
    (answered.finished sharing r requestId a).TellsWindow d where
  limit := (get?_finished sharing r requestId a (by decide)).trans tells.limit
  remaining := (get?_finished sharing r requestId a (by decide)).trans tells.remaining
  reset := tells.reset.imp fun _ ⟨whole, told⟩ =>
    ⟨whole, (get?_finished sharing r requestId a (by decide)).trans told⟩

theorem Response.TellsDelay.finished {seconds : Int} (tells : a.TellsDelay d seconds) (sharing : Sharing) (r : Request)
    (requestId : Text) : (answered.finished sharing r requestId a).TellsDelay d seconds where
  delay := tells.delay
  header := (get?_finished sharing r requestId a (by decide)).trans tells.header
  body := by
    have kept : (answered.finished sharing r requestId a).body = a.body := mark_body sharing r a
    rw [kept]
    exact tells.body

theorem tellsWindow_of_headers {reset : Int} {others : Headers} {type : Text} (whole : d.resetAt.truncated = .ok reset)
    (headers : a.headers = (windowHeaders d reset ++ others).setIfMissing "content-type" type) : a.TellsWindow d where
  limit := by rw [headers, Headers.get?_setIfMissing_of_ne _ _ (by decide)]; rfl
  remaining := by rw [headers, Headers.get?_setIfMissing_of_ne _ _ (by decide)]; rfl
  reset := ⟨reset, whole, by rw [headers, Headers.get?_setIfMissing_of_ne _ _ (by decide)]; rfl⟩

theorem tooMany_response {limit : Int} (refused : d.isAllowed = false) (tooMany : p.IsTooMany limit d)
    (answer : p.response (some requestId) = .ok a) :
    a.status = 429 ∧ a.TellsWindow d ∧ ∃ seconds, a.TellsDelay d seconds := by
  obtain ⟨reset, seconds, whole, delay, lowered, message, headers, rfl⟩ := lowered_of_tooMany refused tooMany
  obtain ⟨status, told, body⟩ := Response.ofContent_ok answer
  have made : a.headers = (windowHeaders d reset ++ [(Text.ofString "retry-after", Text.ofInt seconds)]).setIfMissing
      "content-type" Response.jsonType := lowered ▸ told
  refine ⟨status, tellsWindow_of_headers whole made, seconds, delay, ?_, _, body, ?_⟩
  · rw [made, Headers.get?_setIfMissing_of_ne _ _ (by decide)]
    rfl
  · cases requestId <;> rfl

theorem page_isReticent (document : Sandbox.Document) :
    ∀ name ∈ quotaNames, (Response.ofPage document.headers document.html).headers.get? name = none := by
  simp only [quotaNames, List.forall_mem_cons]
  exact ⟨rfl, rfl, rfl, rfl, fun _ member => absurd member List.not_mem_nil⟩

theorem answered_ordinary (sharing : Sharing) (r : Request) (requestId : Text) (ordinary : p.IsOrdinary) :
    let a := (answered sharing r requestId (.error p)).response
    a.status ≠ 200 ∧ a.status ≠ 429 := by
  by_cases foreseen : p.IsForeseen requestId
  · obtain ⟨foreseen, a, answer⟩ := foreseen
    rw [answered_of_foreseen sharing r foreseen answer]
    have status : (answered.finished sharing r requestId a).status = p.status :=
      (mark_status sharing r a).trans (Problem.response_ok answer).1
    have listed := status ▸ ordinary.2
    exact ⟨fun success => absurd (success ▸ listed) (by decide), fun tooMany => absurd (tooMany ▸ listed) (by decide)⟩
  · rw [answered_of_unforeseen sharing r foreseen]
    dsimp only
    rw [Problem.blankResponse_status]
    decide

theorem answered_tooMany (sharing : Sharing) (r : Request) (requestId : Text) {limit : Int}
    (refused : d.isAllowed = false) (tooMany : p.IsTooMany limit d) :
    let a := (answered sharing r requestId (.error p)).response
    a.status = 500 ∨ a.status = 429 ∧ a.TellsWindow d ∧ ∃ seconds, a.TellsDelay d seconds := by
  by_cases foreseen : p.IsForeseen requestId
  · obtain ⟨foreseen, a, answer⟩ := foreseen
    obtain ⟨status, window, seconds, delay⟩ := tooMany_response refused tooMany answer
    rw [answered_of_foreseen sharing r foreseen answer]
    exact .inr ⟨(mark_status sharing r a).trans status, window.finished sharing r requestId, seconds,
      delay.finished sharing r requestId⟩
  · rw [answered_of_unforeseen sharing r foreseen]
    exact .inl (Problem.blankResponse_status requestId)

/-- What the answer of an endpoint tells of the window: nothing if it is a page, and all otherwise. -/
def Endpoint.Tells (d : Quota.Decision) (a : Response) : Endpoint → Prop
  | .sandbox _ => ∀ name ∈ quotaNames, a.headers.get? name = none
  | _ => a.TellsWindow d

theorem answered_given {e : Endpoint} {reply : Reply} {headers : Headers} (sharing : Sharing) (r : Request)
    (requestId : Text) (allowed : d.isAllowed = true) (told : d.headers = .ok headers) (gives : e.Gives headers reply) :
    let a := (answered sharing r requestId (.ok reply)).response
    a.status = 200 ∧ e.Tells d a := by
  obtain ⟨reset, whole, lowered⟩ := lowered_of_allowed allowed told
  have content (gives : reply.response.IsContent headers) :
      (answered sharing r requestId (.ok reply)).response.status = 200 ∧
        (answered sharing r requestId (.ok reply)).response.TellsWindow d := by
    have made := gives.headers_eq
    rw [lowered, ← List.append_nil (windowHeaders d reset)] at made
    exact ⟨(mark_status sharing r _).trans gives.success,
      (tellsWindow_of_headers whole made).finished sharing r requestId⟩
  cases e with
  | sandbox id =>
    obtain ⟨document, page⟩ := gives
    refine ⟨(mark_status sharing r _).trans (congrArg Response.status page), fun name quota => ?_⟩
    exact (get?_finished sharing r requestId _ quota).trans (page ▸ page_isReticent document name quota)
  | _ => exact content gives

/-- A request to an endpoint that counts requests is answered with success if it is allowed, and then told of its
window unless a page is given; one that is answered as one of too many is refused, and told of its window and how long
to wait. What is told is what was decided on this request. -/
theorem serve_counted {e : Endpoint} {m : Meter} (s : Service σ) (now : Instant) (r : Request)
    (asked : Route.ofRequest r = .found e) (metered : s.meter? e = some m) :
    let a := (s.serve now r).1
    (a.status = 200 → ∃ d, m.decision? now r = some d ∧ d.isAllowed = true ∧ e.Tells d a) ∧
      (a.status = 429 → ∃ d seconds, m.decision? now r = some d ∧ d.isAllowed = false ∧ a.TellsWindow d ∧
        a.TellsDelay d seconds) := by
  obtain ⟨outcome, s', ran, replied⟩ := reply_found_eq s now asked
  have ends := atEndpoint_ends metered ran
  have served : (s.serve now r).1 =
      (answered s.sharing r (s.draws.requestId (s.requestsSeen + 1)) outcome).response := by
    change bodiless r (s.reply now r).1.response = _
    rw [replied, bodiless, if_neg]
    rcases getOrPost_of_found asked with method | method <;> rw [method] <;> decide
  rw [served]
  cases ends with
  | ordinary ordinary =>
    obtain ⟨unsuccessful, other⟩ := answered_ordinary s.sharing r (s.draws.requestId (s.requestsSeen + 1)) ordinary
    exact ⟨fun success => absurd success unsuccessful, fun tooMany => absurd tooMany other⟩
  | @tooMany d p decided refused told =>
    obtain failed | ⟨status, window, seconds, delay⟩ :=
      answered_tooMany s.sharing r (s.draws.requestId (s.requestsSeen + 1)) refused told
    · exact ⟨fun success => absurd (failed.symm.trans success) (by decide),
        fun tooMany => absurd (failed.symm.trans tooMany) (by decide)⟩
    · exact ⟨fun success => absurd (status.symm.trans success) (by decide),
        fun _ => ⟨d, seconds, decided, refused, window, delay⟩⟩
  | @given d headers reply decided allowed told gives =>
    obtain ⟨status, tells⟩ := answered_given s.sharing r (s.draws.requestId (s.requestsSeen + 1)) allowed told gives
    exact ⟨fun _ => ⟨d, decided, allowed, tells⟩, fun tooMany => absurd (status.symm.trans tooMany) (by decide)⟩

/-- The second of two requests for code to be compiled, where only one is allowed. -/
theorem serve_counted_second :
    let environment : Environment := [
      ("LESSONFORGE_ALLOWED_ORIGINS", "http://localhost:3000"), ("LESSONFORGE_COMPILE_RATE_LIMIT", "1")]
    let r : Request := {
      method := "POST", path := "/v1/compile", query := [], headers := [("content-type", "application/json")]
      body := "\x7b\x7d", peer := none }
    let now : Instant := ⟨1704067200000000⟩
    ∃ settings, environment.settings = .ok settings ∧
      let first : Service Unit := .start settings ⟨Text.ofNat, Text.ofNat, [], fun _ => 0⟩ none ()
      let s := (first.serve now r).2
      let a := (s.serve now r).1
      ∃ m, Route.ofRequest r = .found .compile ∧ s.meter? .compile = some m ∧ a.status = 429 ∧
        ∃ d seconds, m.decision? now r = some d ∧ d.isAllowed = false ∧ a.TellsWindow d ∧ a.TellsDelay d seconds := by
  intro environment r now
  have told : environment.settings.toOption.map (fun settings =>
      let first : Service Unit := .start settings ⟨Text.ofNat, Text.ofNat, [], fun _ => 0⟩ none ()
      ((first.serve now r).2.serve now r).1.status) = some 429 := by decide +kernel
  have asked : Route.ofRequest r = .found .compile := by decide +kernel
  cases accepted : environment.settings with
  | error e =>
    rw [accepted] at told
    cases told
  | ok settings =>
    rw [accepted] at told
    have tooMany := Option.some.inj told
    exact ⟨settings, rfl, _, asked, rfl, tooMany, (serve_counted _ now r asked rfl).2 tooMany⟩

end LessonService.Web
