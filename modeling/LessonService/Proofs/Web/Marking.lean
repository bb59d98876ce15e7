import LessonService.Proofs.Web.Answers
import LessonService.Proofs.Web.Endings

namespace LessonService.Web

open Handler

variable {σ : Type} {s s' : Service σ} {now : Instant} {r : Request} {p : Problem} {h : Headers} {requestId : Text}

/-- Headers that leave the marks to the service, but may keep clients from guessing the type of an answer. -/
structure Headers.IsUnmarked (h : Headers) : Prop where
  untagged : h.get? "x-request-id" = none
  type : (h.get? "x-content-type-options").getD "nosniff" = ("nosniff" : Text)

/-- An answer that has the identity of its request and keeps clients from guessing its type. -/
structure Response.IsMarked (requestId : Text) (a : Response) : Prop where
  tag : a.headers.get? "x-request-id" = some requestId
  type : a.headers.get? "x-content-type-options" = some (Text.ofString "nosniff")

/-- A failure that has neither. -/
structure Response.IsBare (a : Response) : Prop where
  failure : a.status = 500
  untagged : a.headers.get? "x-request-id" = none
  untyped : a.headers.get? "x-content-type-options" = none

/-- An answer that does not tell about the server. -/
def Response.IsSilent (a : Response) : Prop := ∀ name ∈ Headers.serverNames, a.headers.get? name = none

theorem secured_isSilent (status : Int) (h : Headers) (body : Text) : Response.IsSilent ⟨status, h.secured, body⟩ :=
  fun _ fingerprint => h.get?_secured_of_mem fingerprint

theorem marked_secured (unmarked : h.IsUnmarked) (status : Int) (body : Text) :
    Response.IsMarked requestId ⟨status, (h.tagged requestId).secured, body⟩ where
  tag := by
    change (h.tagged requestId).secured.get? "x-request-id" = _
    rw [Headers.get?_secured_of_notMem _ (by decide) (by decide), Headers.tagged, Headers.get?_setIfMissing_self,
      unmarked.untagged]
    rfl
  type := by
    change (h.tagged requestId).secured.get? "x-content-type-options" = _
    rw [Headers.get?_secured_type, Headers.tagged, Headers.get?_setIfMissing_of_ne _ _ (by decide), unmarked.type]

theorem Headers.IsUnmarked.mark {a : Response} (unmarked : a.headers.IsUnmarked) (sharing : Sharing) (r : Request) :
    (sharing.mark r a).headers.IsUnmarked where
  untagged := (Headers.get?_mark sharing r a (by decide)).trans unmarked.untagged
  type := by
    rw [Headers.get?_mark sharing r a (by decide)]
    exact unmarked.type

theorem Headers.IsUnmarked.typed (unmarked : h.IsUnmarked) (type : Text) :
    (h.setIfMissing "content-type" type).IsUnmarked where
  untagged := (Headers.get?_setIfMissing_of_ne _ _ (by decide)).trans unmarked.untagged
  type := by
    rw [Headers.get?_setIfMissing_of_ne _ _ (by decide)]
    exact unmarked.type

/-- What has become of a request leaves the marks of its answer to the service. -/
def LeavesMarks : Except Problem Reply → Prop
  | .ok reply => reply.response.headers.IsUnmarked
  | .error p => p.headers.lowered.IsUnmarked

theorem Problem.IsOrdinary.leavesMarks (ordinary : p.IsOrdinary) : LeavesMarks (.error p) := by
  change p.headers.lowered.IsUnmarked
  rw [ordinary.1]
  exact ⟨rfl, rfl⟩

theorem Meter.Ends.leavesMarks {m : Meter} {e : Endpoint} {outcome : Except Problem Reply}
    (ends : m.Ends now r e.Gives outcome) : LeavesMarks outcome := by
  cases ends with
  | ordinary ordinary => exact ordinary.leavesMarks
  | tooMany decided refused told =>
    change Headers.IsUnmarked _
    obtain ⟨reset, seconds, -, -, lowered, -⟩ := lowered_of_tooMany refused told
    rw [lowered]
    exact ⟨rfl, rfl⟩
  | @given d headers reply decided allowed told fits =>
    change reply.response.headers.IsUnmarked
    obtain ⟨reset, -, lowered⟩ := lowered_of_allowed allowed told
    have content (fits : reply.response.IsContent headers) : reply.response.headers.IsUnmarked := by
      rw [fits.headers_eq, lowered]
      exact .typed ⟨rfl, rfl⟩ _
    cases e with
    | sandbox id =>
      obtain ⟨document, page⟩ := fits
      rw [page]
      exact .typed (h := Headers.lowered document.headers) ⟨rfl, rfl⟩ _
    | _ => exact content fits

theorem atEndpoint_leavesMarks {e : Endpoint} {outcome : Except Problem Reply}
    (ran : (atEndpoint now r e).Runs { s with requestsSeen := s.requestsSeen + 1 } outcome s') :
    LeavesMarks outcome := by
  cases metered : s.meter? e with
  | some m => exact (atEndpoint_ends metered ran).leavesMarks
  | none =>
    have yields := atEndpoint_yields now r metered
    cases outcome with
    | error p => exact (yields.fails ran).leavesMarks
    | ok reply =>
      change reply.response.headers.IsUnmarked
      rw [(yields.gives ran).headers_eq]
      exact .typed ⟨rfl, rfl⟩ _

theorem routed_leavesMarks {outcome : Except Problem Reply}
    (ran : (routed now r).Runs { s with requestsSeen := s.requestsSeen + 1 } outcome s') : LeavesMarks outcome := by
  unfold routed at ran
  split at ran
  · exact atEndpoint_leavesMarks ran
  · obtain ⟨rfl, -⟩ := throw_runs.mp ran
    exact ⟨rfl, rfl⟩
  · obtain ⟨rfl, -⟩ := pure_runs.mp ran
    exact ⟨rfl, rfl⟩
  · obtain ⟨rfl, -⟩ := throw_runs.mp ran
    exact ⟨rfl, rfl⟩

theorem answer_isUnmarked (sharing : Sharing) (origin method : Text) (h : Headers) :
    (sharing.answer origin method h).headers.IsUnmarked := by
  unfold Sharing.answer
  dsimp only
  split
  all_goals
    refine .typed ?_ _
    split <;> exact ⟨rfl, rfl⟩

theorem blankResponse_headers (requestId : Text) :
    (Problem.blankResponse requestId).headers = [] ∨
      (Problem.blankResponse requestId).headers = [(Text.ofString "content-type", Response.jsonType)] := by
  unfold Problem.blankResponse
  cases answered : Problem.unforeseen.response (some requestId) with
  | ok a => exact .inr (Problem.response_ok answered).2
  | error e => exact .inl rfl

theorem get?_blankResponse {name : Text} (requestId : Text) (other : name ≠ "content-type") :
    (Problem.blankResponse requestId).headers.get? name = none := by
  rcases blankResponse_headers requestId with empty | typed
  · rw [empty, Headers.get?_nil]
  · rw [typed, Headers.get?_cons_of_ne _ _ (Ne.symm other), Headers.get?_nil]

theorem blankResponse_isBare (requestId : Text) : (Problem.blankResponse requestId).IsBare where
  failure := Problem.blankResponse_status requestId
  untagged := get?_blankResponse requestId (by decide)
  untyped := get?_blankResponse requestId (by decide)

theorem blankResponse_isSilent (requestId : Text) : (Problem.blankResponse requestId).IsSilent := by
  intro name fingerprint
  refine get?_blankResponse requestId ?_
  rintro rfl
  exact absurd fingerprint (by decide)

theorem answered_of_known {outcome : Except Problem Reply} (sharing : Sharing) (r : Request)
    (known : IsKnown requestId outcome) (leaves : LeavesMarks outcome) :
    let a := (answered sharing r requestId outcome).response
    a.IsSilent ∧ a.IsMarked requestId := by
  have finished {a : Response} (unmarked : a.headers.IsUnmarked) :
      (answered.finished sharing r requestId a).IsSilent ∧ (answered.finished sharing r requestId a).IsMarked requestId :=
    ⟨secured_isSilent _ _ _, marked_secured (unmarked.mark sharing r) _ _⟩
  cases outcome with
  | ok reply => exact finished leaves
  | error p =>
    obtain ⟨foreseen, a, answer⟩ := known
    have unmarked : a.headers.IsUnmarked := (Problem.response_ok answer).2 ▸ leaves.typed _
    rw [answered_of_foreseen sharing r foreseen answer]
    exact finished unmarked

theorem answered_of_unknown {outcome : Except Problem Reply} (sharing : Sharing) (r : Request)
    (unknown : ¬IsKnown requestId outcome) :
    let a := (answered sharing r requestId outcome).response
    a.IsSilent ∧ a.IsBare := by
  cases outcome with
  | ok reply => exact absurd trivial unknown
  | error p =>
    rw [answered_of_unforeseen sharing r unknown]
    exact ⟨blankResponse_isSilent requestId, blankResponse_isBare requestId⟩

/-- The service knows no answer to what becomes of a request. -/
def Service.IsAtALoss (s : Service σ) (now : Instant) (r : Request) : Prop :=
  Sharing.question? r = none ∧ ∃ outcome s', (routed now r).Runs { s with requestsSeen := s.requestsSeen + 1 } outcome s' ∧
    ¬IsKnown (s.draws.requestId (s.requestsSeen + 1)) outcome

theorem reply_isMarked (s : Service σ) (now : Instant) (r : Request) :
    let a := (s.reply now r).1.response
    a.IsSilent ∧ (¬s.IsAtALoss now r → a.IsMarked (s.draws.requestId (s.requestsSeen + 1))) ∧
      (s.IsAtALoss now r → a.IsBare) := by
  cases asks : Sharing.question? r with
  | some question =>
    obtain ⟨origin, method⟩ := question
    unfold Service.reply
    rw [asks]
    refine ⟨secured_isSilent _ _ _, fun _ => marked_secured (answer_isUnmarked _ _ _ _) _ _, ?_⟩
    rintro ⟨unasked, -⟩
    cases asks.symm.trans unasked
  | none =>
    obtain ⟨outcome, after, ran, replied⟩ := reply_routed s now asks
    rw [replied]
    by_cases known : IsKnown (s.draws.requestId (s.requestsSeen + 1)) outcome
    · obtain ⟨silent, marked⟩ := answered_of_known s.sharing r known (routed_leavesMarks ran)
      refine ⟨silent, fun _ => marked, ?_⟩
      rintro ⟨-, outcome', s', ran', unknown⟩
      exact absurd ((ran.eq ran').1 ▸ known) unknown
    · obtain ⟨silent, bare⟩ := answered_of_unknown s.sharing r known
      exact ⟨silent, fun helped => absurd ⟨asks, outcome, after, ran, known⟩ helped, fun _ => bare⟩

/-- No answer tells about the server. Every answer to a request is marked with the identity that was drawn for the
request, whatever the request is and whatever becomes of it, unless the service knows no answer to that: then the
answer is a failure without marks. -/
theorem serve_isMarked (s : Service σ) (now : Instant) (r : Request) :
    let a := (s.serve now r).1
    a.IsSilent ∧ (¬s.IsAtALoss now r → a.IsMarked (s.draws.requestId (s.requestsSeen + 1))) ∧
      (s.IsAtALoss now r → a.IsBare) := by
  obtain ⟨silent, marked, bare⟩ := reply_isMarked s now r
  obtain ⟨body, sent⟩ := bodiless_eq r (s.reply now r).1.response
  have served : (s.serve now r).1 = bodiless r (s.reply now r).1.response := rfl
  rw [served, sent]
  exact ⟨silent, fun helped => ⟨(marked helped).tag, (marked helped).type⟩,
    fun loss => ⟨(bare loss).failure, (bare loss).untagged, (bare loss).untyped⟩⟩

/-- A request for a page that the database cannot count to. -/
theorem serve_unmarked :
    (Environment.settings [("LESSONFORGE_ALLOWED_ORIGINS", "http://localhost:3000"),
        ("LESSONFORGE_PG_DSN", "sqlite://")]).toOption.map (fun settings =>
      let s : Service Unit := .start settings ⟨Text.ofNat, Text.ofNat, [], fun _ => 1⟩ none ()
      let r : Request := {
        method := "GET", path := "/v1/lessons", query := "page=9223372036854775809&limit=1", headers := [], body := []
        peer := none }
      let a := (s.serve ⟨1704067200000000⟩ r).1
      (a.status, a.headers.get? "x-request-id", a.headers.get? "x-content-type-options")) = some (500, none, none) := by
  decide +kernel

end LessonService.Web
