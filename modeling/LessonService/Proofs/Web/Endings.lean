import LessonService.Proofs.Web.Handling

namespace LessonService.Web

open Handler

variable {σ α : Type} {s s' : Service σ} {e : Endpoint} {now : Instant} {r : Request} {outcome : Except Problem α}

/-- An answer of success in JSON, with some headers of its own. -/
structure Response.IsContent (headers : Headers) (a : Response) : Prop where
  success : a.status = 200
  headers_eq : a.headers = headers.lowered.setIfMissing "content-type" Response.jsonType

theorem answerWith_yields {γ : Type} (kept : Service σ → γ) (headers : Headers) (c : Content) :
    (answerWith headers c : Handler σ Response).Yields kept (Response.IsContent headers) Problem.IsOrdinary := by
  unfold answerWith
  cases made : Response.ofContent 200 headers c with
  | ok a =>
    obtain ⟨status, told, -⟩ := Response.ofContent_ok made
    exact yields_pure ⟨status, told⟩
  | error => exact yields_throw Problem.unforeseen_isOrdinary

/-- What a handler gives as it is, without any work after it. -/
theorem Handler.Yields.reply {γ : Type} {kept : Service σ → γ} {h : Handler σ Response} {given : Response → Prop}
    {failed : Problem → Prop} (yields : h.Yields kept given failed) :
    (h >>= fun a => pure (⟨a, none⟩ : Reply)).Yields kept (fun reply => given reply.response) failed :=
  yields.bind fun _ fits => yields_pure fits

/-- What the next request to an endpoint is counted by, if it is. -/
def Service.meter? (s : Service σ) (e : Endpoint) : Option Meter :=
  let asked := { s with requestsSeen := s.requestsSeen + 1 }
  match e with
  | .generate => some asked.generationMeter
  | .compile | .sandbox _ => some asked.compileMeter
  | _ => none

/-- What is decided on a request when it is counted. -/
def Meter.decision? (m : Meter) (now : Instant) (r : Request) : Option Quota.Decision :=
  (m.guard.admitVisit (m.visit now r)).1.toOption

/-- What a client is told about its window, by the names that are sent. -/
def windowHeaders (d : Quota.Decision) (reset : Int) : Headers := [
  ("x-ratelimit-limit", Text.ofInt d.limit), ("x-ratelimit-remaining", Text.ofInt d.remaining),
  ("x-ratelimit-reset", Text.ofInt reset)]

theorem written_eq_ok {n : Int} {t : Text} (wrote : Decimal.written n = .ok t) : t = Text.ofInt n := by
  unfold Decimal.written at wrote
  split at wrote <;> cases wrote
  rfl

theorem lowered_of_allowed {d : Quota.Decision} {headers : Headers} (allowed : d.isAllowed = true)
    (told : d.headers = .ok headers) :
    ∃ reset, d.resetAt.truncated = .ok reset ∧ headers.lowered = windowHeaders d reset := by
  obtain ⟨limit, wroteLimit, told⟩ := Except.bind_eq_ok told
  obtain ⟨remaining, wroteRemaining, told⟩ := Except.bind_eq_ok told
  obtain ⟨reset, whole, told⟩ := Except.bind_eq_ok told
  obtain ⟨text, wroteReset, told⟩ := Except.bind_eq_ok told
  rw [if_pos allowed] at told
  obtain rfl := Except.ok.inj told
  rw [written_eq_ok wroteLimit, written_eq_ok wroteRemaining, written_eq_ok wroteReset]
  exact ⟨reset, whole, rfl⟩

/-- The delay is told once, although it is given twice. -/
theorem lowered_of_tooMany {d : Quota.Decision} {limit : Int} {p : Problem} (refused : d.isAllowed = false)
    (tooMany : p.IsTooMany limit d) :
    ∃ reset seconds, d.resetAt.truncated = .ok reset ∧ d.retryAfter = .ok seconds ∧
      p.headers.lowered = windowHeaders d reset ++ [(Text.ofString "retry-after", Text.ofInt seconds)] ∧
      ∃ message headers, p = .pipeline (.quotaExceeded message seconds (some limit) headers) := by
  obtain ⟨message, seconds, headers, told, delay, rfl⟩ := tooMany
  obtain ⟨limit, wroteLimit, told⟩ := Except.bind_eq_ok told
  obtain ⟨remaining, wroteRemaining, told⟩ := Except.bind_eq_ok told
  obtain ⟨reset, whole, told⟩ := Except.bind_eq_ok told
  obtain ⟨text, wroteReset, told⟩ := Except.bind_eq_ok told
  rw [if_neg (by simp [refused])] at told
  obtain ⟨seconds', again, told⟩ := Except.bind_eq_ok told
  obtain ⟨wait, wroteWait, told⟩ := Except.bind_eq_ok told
  obtain rfl := Except.ok.inj told
  obtain rfl : seconds = seconds' := Except.ok.inj (delay.symm.trans again)
  rw [written_eq_ok wroteLimit, written_eq_ok wroteRemaining, written_eq_ok wroteReset, written_eq_ok wroteWait]
  exact ⟨reset, seconds, whole, delay, rfl, message, _, rfl⟩

/-- How a counted request ends: with an ordinary problem, or with what the decision on it demands. -/
inductive Meter.Ends (m : Meter) (now : Instant) (r : Request) (given : Headers → α → Prop) : Except Problem α → Prop
  | ordinary {p : Problem} (ordinary : p.IsOrdinary) : Ends m now r given (.error p)
  | tooMany {d : Quota.Decision} {p : Problem} (decided : m.decision? now r = some d) (refused : d.isAllowed = false)
    (told : p.IsTooMany m.limit d) : Ends m now r given (.error p)
  | given {d : Quota.Decision} {headers : Headers} {a : α} (decided : m.decision? now r = some d)
    (allowed : d.isAllowed = true) (told : d.headers = .ok headers) (fits : given headers a) :
    Ends m now r given (.ok a)

namespace Meter.Ends

variable {m : Meter} {given : Headers → α → Prop}

/-- A handler that counts a request first. -/
theorem of_counted {enforce : Handler σ Headers} {rest : Headers → Handler σ α}
    (ran : (enforce >>= rest).Runs s outcome s')
    (counts : ∀ {answer s'}, enforce.Runs s answer s' → ∃ quota, m.count now r = (answer, quota))
    (rests : ∀ headers, (rest headers).Yields (fun _ => ()) (given headers) Problem.IsOrdinary) :
    m.Ends now r given outcome := by
  have decision {d : Quota.Decision} (decided : (m.guard.admitVisit (m.visit now r)).1 = .ok d) :
      m.decision? now r = some d := congrArg Except.toOption decided
  obtain ⟨p, stopped, rfl⟩ | ⟨headers, s₁, went, ended⟩ := bind_runs.mp ran
  · obtain ⟨quota, counted⟩ := counts stopped
    obtain same | ⟨d, decided, ⟨headers, same, -⟩ | ⟨p', same, refused, told⟩⟩ := count_cases counted
    · cases same
      exact .ordinary Problem.unforeseen_isOrdinary
    · cases same
    · cases same
      exact .tooMany (decision decided) refused told
  · obtain ⟨quota, counted⟩ := counts went
    obtain same | ⟨d, decided, ⟨headers', same, allowed, told⟩ | ⟨p', same, -⟩⟩ := count_cases counted
    · cases same
    · cases same
      cases outcome with
      | ok a => exact .given (decision decided) allowed told ((rests _).gives ended)
      | error p => exact .ordinary ((rests _).fails ended)
    · cases same

/-- A handler that reads the body of a request before anything else. -/
theorem of_received {f : Body.Received → Handler σ α} (ran : (received r >>= f).Runs s outcome s')
    (rest : ∀ body, (f body).Runs s outcome s' → m.Ends now r given outcome) : m.Ends now r given outcome := by
  obtain ⟨p, stopped, rfl⟩ | ⟨body, s₁, arrived, ended⟩ := bind_runs.mp ran
  · exact .ordinary ((isPlain_received r).fails stopped)
  · obtain rfl : s₁ = s := (isPlain_received r).keeps arrived
    exact rest body ended

end Meter.Ends

theorem generate_ends {outcome : Except Problem Reply} (ran : (generate now r).Runs s outcome s') :
    s.generationMeter.Ends now r (fun headers reply => reply.response.IsContent headers) outcome := by
  refine .of_received ran fun body ran => .of_counted ran ?_ fun headers => ?_
  · intro answer s' counts
    obtain ⟨quota, counted, -⟩ := enforceGeneration_runs counts
    exact ⟨quota, counted⟩
  · refine (isPlain_requireStore.yields _).bind fun _ _ => (isPlain_requireMaker.yields _).bind fun _ _ => ?_
    refine ((isPlain_faultless _).yields _).bind fun _ _ => ((isPlain_admitted _).yields _).bind fun outline _ => ?_
    refine ((isPlain_refuseDuplicate now outline).yields _).bind fun _ _ => ?_
    refine (createLesson_yields now outline).bind fun record _ => ?_
    exact (answerWith_yields _ headers _).bind fun a fits => yields_pure fits

theorem enforceCompilation_counts {t : Service σ} {answer : Except Problem Headers}
    (counts : (enforceCompilation now r).Runs s answer t) : ∃ quota, s.compileMeter.count now r = (answer, quota) := by
  obtain ⟨quota, counted, -⟩ := enforceCompilation_runs counts
  exact ⟨quota, counted⟩

theorem compile_ends {outcome : Except Problem Response} (ran : (compile now r).Runs s outcome s') :
    s.compileMeter.Ends now r Response.IsContent outcome := by
  refine .of_received ran fun body ran => .of_counted ran enforceCompilation_counts fun headers => ?_
  refine ((isPlain_faultless _).yields _).bind fun source _ => ((isPlain_compiled source).yields _).bind fun c _ => ?_
  exact answerWith_yields _ headers _

/-- A page with the lesson, whatever the quota says. -/
theorem sandbox_ends {id : Text} {outcome : Except Problem Response} (ran : (sandbox now r id).Runs s outcome s') :
    s.compileMeter.Ends now r
      (fun _ a => ∃ document : Sandbox.Document, a = .ofPage document.headers document.html) outcome := by
  refine .of_counted ran enforceCompilation_counts fun headers => ?_
  refine (isPlain_requireStore.yields _).bind fun _ _ => yields_get_bind fun s => ?_
  refine ((isPlain_orElse _).yields _).bind fun runtime _ => ((isPlain_found id).yields _).bind fun record _ => ?_
  refine ((isPlain_showable record).yields _).bind fun code _ => ((isPlain_compiled code).yields _).bind fun c _ => ?_
  exact yields_pure ⟨_, rfl⟩

/-- What the answer of a counted endpoint has in its headers: those of the decision, unless it is a page. -/
def Endpoint.Gives : Endpoint → Headers → Reply → Prop
  | .sandbox _, _, reply => ∃ document : Sandbox.Document, reply.response = .ofPage document.headers document.html
  | _, headers, reply => reply.response.IsContent headers

theorem Meter.Ends.reply {m : Meter} {h : Handler σ Response} {given : Headers → Response → Prop}
    {given' : Headers → Reply → Prop} {outcome : Except Problem Reply}
    (ran : (h >>= fun a => pure (⟨a, none⟩ : Reply)).Runs s outcome s')
    (ends : ∀ {outcome s'}, h.Runs s outcome s' → m.Ends now r given outcome)
    (fits : ∀ headers a, given headers a → given' headers ⟨a, none⟩) : m.Ends now r given' outcome := by
  obtain ⟨p, stopped, rfl⟩ | ⟨a, s₁, went, ended⟩ := bind_runs.mp ran
  · cases ends stopped with
    | ordinary ordinary => exact .ordinary ordinary
    | tooMany decided refused told => exact .tooMany decided refused told
  · obtain ⟨rfl, -⟩ := pure_runs.mp ended
    cases ends went with
    | given decided allowed told given => exact .given decided allowed told (fits _ _ given)

theorem atEndpoint_ends {m : Meter} {outcome : Except Problem Reply} (metered : s.meter? e = some m)
    (ran : (atEndpoint now r e).Runs { s with requestsSeen := s.requestsSeen + 1 } outcome s') :
    m.Ends now r e.Gives outcome := by
  cases e with
  | generate =>
    cases metered
    exact generate_ends ran
  | compile =>
    cases metered
    exact .reply ran compile_ends fun _ _ fits => fits
  | sandbox id =>
    cases metered
    exact .reply ran sandbox_ends fun _ _ fits => fits
  | _ => cases metered

theorem list_yields (r : Request) :
    (list r : Handler σ Response).Yields id (Response.IsContent []) Problem.IsOrdinary :=
  isPlain_requireStore.bind fun _ _ => (isPlain_faultless _).bind fun _ _ => yields_get_bind fun _ =>
    (isPlain_orElse _).bind fun _ _ => answerWith_yields _ _ _

theorem stats_yields : (stats : Handler σ Response).Yields id (Response.IsContent []) Problem.IsOrdinary :=
  isPlain_requireStore.bind fun _ _ => yields_get_bind fun _ => answerWith_yields _ _ _

theorem lesson_yields (lessonId : Text) :
    (lesson lessonId : Handler σ Response).Yields id (Response.IsContent []) Problem.IsOrdinary :=
  isPlain_requireStore.bind fun _ _ => (isPlain_found lessonId).bind fun _ _ => answerWith_yields _ _ _

theorem lessonStatus_yields (lessonId : Text) :
    (lessonStatus lessonId : Handler σ Response).Yields id (Response.IsContent []) Problem.IsOrdinary :=
  isPlain_requireStore.bind fun _ _ => yields_get_bind fun _ => answerWith_yields _ _ _

theorem atEndpoint_yields (now : Instant) (r : Request) (uncounted : s.meter? e = none) :
    (atEndpoint now r e : Handler σ Reply).Yields id (fun reply => reply.response.IsContent []) Problem.IsOrdinary := by
  cases e with
  | health => exact (answerWith_yields _ _ _).reply
  | list => exact (list_yields r).reply
  | stats => exact stats_yields.reply
  | lesson lessonId => exact (lesson_yields lessonId).reply
  | lessonStatus lessonId => exact (lessonStatus_yields lessonId).reply
  | generate | compile | sandbox => cases uncounted

end LessonService.Web
