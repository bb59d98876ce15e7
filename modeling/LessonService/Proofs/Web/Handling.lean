import LessonService.Proofs.Settings.Loading
import LessonService.Web.Service

namespace LessonService.Web

variable {σ α β : Type} {s s' : Service σ} {outcome : Except Problem α} {p : Problem}

/-- A problem whose answer does not have the status of success, nor any answer that stands in for it. -/
def Problem.IsRefusal (p : Problem) : Prop := ∀ requestId r, p.response requestId = .ok r → r.status ≠ 200

theorem Response.ofContent_ok {status : Int} {headers : Headers} {c : Content} {a : Response}
    (made : Response.ofContent status headers c = .ok a) :
    a.status = status ∧ a.headers = headers.lowered.setIfMissing "content-type" Response.jsonType ∧
      c.render = .ok a.body := by
  unfold Response.ofContent at made
  cases rendered : c.render with
  | error e =>
    rw [rendered] at made
    cases made
  | ok body =>
    rw [rendered] at made
    cases made
    exact ⟨rfl, rfl, rfl⟩

namespace Problem

/-- The status of the answer to a problem. -/
def status : Problem → Int
  | pipeline e => e.status
  | refused status _ _ => status
  | invalid _ => 422
  | unforeseen => 500

/-- What the answer to a problem has in its headers besides its type. -/
def headers : Problem → Headers
  | pipeline e => pipelineHeaders e
  | refused _ _ headers => headers
  | _ => []

theorem response_ok {requestId : Option Text} {a : Response} (answered : p.response requestId = .ok a) :
    a.status = p.status ∧ a.headers = p.headers.lowered.setIfMissing "content-type" Response.jsonType := by
  have made {status : Int} {headers : Headers} {c : Content} (told : Response.ofContent status headers c = .ok a) :
      a.status = status ∧ a.headers = headers.lowered.setIfMissing "content-type" Response.jsonType :=
    (Response.ofContent_ok told).imp_right And.left
  cases p with
  | invalid errors =>
    rw [response] at answered
    cases kept : sanitized errors with
    | none =>
      rw [kept] at answered
      cases answered
    | some told =>
      rw [kept] at answered
      exact made answered
  | _ => exact made answered

/-- The statuses of answers to problems, but for that of a client that has made too many requests. -/
def ordinaryStatuses : List Int := [400, 404, 409, 413, 422, 500, 503]

/-- A problem that is told of without headers of its own, and not as one of too many requests. -/
def IsOrdinary (p : Problem) : Prop := p.headers = [] ∧ p.status ∈ ordinaryStatuses

theorem unforeseen_isOrdinary : unforeseen.IsOrdinary := ⟨rfl, by decide⟩

theorem invalid_isOrdinary (errors : List Content) : (invalid errors).IsOrdinary := ⟨rfl, show (422 : Int) ∈ _ by decide⟩

theorem isRefusal_of_status (failing : p.status ≠ 200) : p.IsRefusal := by
  intro requestId r answered
  rwa [(response_ok answered).1]

theorem IsOrdinary.isRefusal (ordinary : p.IsOrdinary) : p.IsRefusal := by
  refine isRefusal_of_status fun success => ?_
  have absent := success ▸ ordinary.2
  exact absurd absent (by decide)

theorem blankResponse_status (requestId : Text) : (blankResponse requestId).status = 500 := by
  unfold blankResponse
  cases answered : unforeseen.response (some requestId) with
  | ok r => exact (response_ok answered).1
  | error e => rfl

end Problem

/-- The service after the one before, with nothing changed but what is counted of requests for lessons. -/
def Service.IsLike (s s' : Service σ) : Prop := ∃ quota, s' = { s with generationQuota := quota }

namespace Service.IsLike

theorem refl (s : Service σ) : s.IsLike s := ⟨_, rfl⟩

theorem trans {s₁ : Service σ} (first : s.IsLike s₁) (second : s₁.IsLike s') : s.IsLike s' := by
  obtain ⟨_, rfl⟩ := first
  obtain ⟨quota, rfl⟩ := second
  exact ⟨quota, rfl⟩

theorem store_eq (like : s.IsLike s') : s'.store = s.store := by
  obtain ⟨_, rfl⟩ := like
  rfl

theorem settings_eq (like : s.IsLike s') : s'.settings = s.settings := by
  obtain ⟨_, rfl⟩ := like
  rfl

theorem maker_eq (like : s.IsLike s') : s'.maker = s.maker := by
  obtain ⟨_, rfl⟩ := like
  rfl

end Service.IsLike

namespace Handler

/-- What becomes of a request and of the service when a handler is run. -/
def Runs (h : Handler σ α) (s : Service σ) (outcome : Except Problem α) (s' : Service σ) : Prop :=
  h.run.run s = (outcome, s')

theorem exists_runs (h : Handler σ α) (s : Service σ) : ∃ outcome s', h.Runs s outcome s' := ⟨_, _, rfl⟩

theorem Runs.eq {h : Handler σ α} {outcome' : Except Problem α} {s₁ : Service σ} (ran : h.Runs s outcome s')
    (ran' : h.Runs s outcome' s₁) : outcome = outcome' ∧ s' = s₁ := Prod.mk.inj (ran.symm.trans ran')

theorem bind_run (h : Handler σ α) (f : α → Handler σ β) (s : Service σ) :
    (h >>= f).run.run s =
      match h.run.run s with
      | (.ok a, s') => (f a).run.run s'
      | (.error p, s') => (.error p, s') := by
  change (ExceptT.bindCont f (h s).1 : StateM (Service σ) _) (h s).2 = _
  change _ = match h s with
    | (.ok a, s') => f a s'
    | (.error p, s') => (.error p, s')
  rcases h s with ⟨_ | _, s'⟩ <;> rfl

/-- A handler goes on from what its first part gives, and stops at a problem. -/
theorem bind_runs {h : Handler σ α} {f : α → Handler σ β} {outcome : Except Problem β} :
    (h >>= f).Runs s outcome s' ↔
      (∃ p, h.Runs s (.error p) s' ∧ outcome = .error p) ∨ ∃ a s₁, h.Runs s (.ok a) s₁ ∧ (f a).Runs s₁ outcome s' := by
  unfold Runs
  rw [bind_run]
  rcases h.run.run s with ⟨p | a, s₁⟩
  · constructor
    · rintro ⟨⟩
      exact .inl ⟨p, rfl, rfl⟩
    · rintro (⟨_, ⟨⟩, rfl⟩ | ⟨a, s₁, ran, -⟩)
      · rfl
      · cases ran
  · constructor
    · exact fun ran => .inr ⟨a, s₁, rfl, ran⟩
    · rintro (⟨p, ran, -⟩ | ⟨_, _, ⟨⟩, ran⟩)
      · cases ran
      · exact ran

theorem Runs.bind_ok {h : Handler σ α} {f : α → Handler σ β} {b : β} (ran : (h >>= f).Runs s (.ok b) s') :
    ∃ a s₁, h.Runs s (.ok a) s₁ ∧ (f a).Runs s₁ (.ok b) s' := by
  obtain ⟨p, -, ⟨⟩⟩ | parts := bind_runs.mp ran
  exact parts

/-- A handler whose first part does not run into a problem. -/
theorem Runs.bind_iff {h : Handler σ α} {f : α → Handler σ β} {a : α} {s₁ : Service σ} {outcome : Except Problem β}
    (ran : h.Runs s (.ok a) s₁) : (h >>= f).Runs s outcome s' ↔ (f a).Runs s₁ outcome s' := by
  unfold Runs at ran ⊢
  rw [bind_run, ran]

theorem pure_runs {a : α} : (pure a : Handler σ α).Runs s outcome s' ↔ outcome = .ok a ∧ s' = s := by
  constructor
  · rintro ⟨⟩
    exact ⟨rfl, rfl⟩
  · rintro ⟨rfl, rfl⟩
    rfl

theorem throw_runs : (throw p : Handler σ α).Runs s outcome s' ↔ outcome = .error p ∧ s' = s := by
  constructor
  · rintro ⟨⟩
    exact ⟨rfl, rfl⟩
  · rintro ⟨rfl, rfl⟩
    rfl

theorem get_bind_runs {f : Service σ → Handler σ α} : (get >>= f).Runs s outcome s' ↔ (f s).Runs s outcome s' := Iff.rfl

theorem set_bind_runs {t : Service σ} {f : PUnit → Handler σ α} :
    (set t >>= f).Runs s outcome s' ↔ (f ⟨⟩).Runs t outcome s' := Iff.rfl

/-- What a handler keeps of the service, what it gives, and which problems it runs into. -/
structure Yields {γ : Type} (h : Handler σ α) (kept : Service σ → γ) (given : α → Prop) (failed : Problem → Prop) :
    Prop where
  keeps : ∀ {s outcome s'}, h.Runs s outcome s' → kept s' = kept s
  gives : ∀ {s a s'}, h.Runs s (.ok a) s' → given a
  fails : ∀ {s p s'}, h.Runs s (.error p) s' → failed p

section

variable {γ : Type} {kept : Service σ → γ} {given : α → Prop} {given' : β → Prop} {failed : Problem → Prop}

theorem yields_pure {a : α} (fits : given a) : (pure a : Handler σ α).Yields kept given failed where
  keeps ran := (pure_runs.mp ran).2 ▸ rfl
  gives ran := by
    cases (pure_runs.mp ran).1
    exact fits
  fails ran := by cases (pure_runs.mp ran).1

theorem yields_throw (fits : failed p) : (throw p : Handler σ α).Yields kept given failed where
  keeps ran := (throw_runs.mp ran).2 ▸ rfl
  gives ran := by cases (throw_runs.mp ran).1
  fails ran := by
    cases (throw_runs.mp ran).1
    exact fits

theorem Yields.bind {h : Handler σ α} {f : α → Handler σ β} (first : h.Yields kept given failed)
    (rest : ∀ a, given a → (f a).Yields kept given' failed) : (h >>= f).Yields kept given' failed where
  keeps ran := by
    obtain ⟨p, stopped, -⟩ | ⟨a, s₁, went, ended⟩ := bind_runs.mp ran
    · exact first.keeps stopped
    · exact ((rest a (first.gives went)).keeps ended).trans (first.keeps went)
  gives ran := by
    obtain ⟨a, s₁, went, ended⟩ := ran.bind_ok
    exact (rest a (first.gives went)).gives ended
  fails ran := by
    obtain ⟨p, stopped, ⟨⟩⟩ | ⟨a, s₁, went, ended⟩ := bind_runs.mp ran
    · exact first.fails stopped
    · exact (rest a (first.gives went)).fails ended

/-- What depends on the service, which is only looked at. -/
theorem yields_get_bind {f : Service σ → Handler σ α} (rest : ∀ s, (f s).Yields kept given failed) :
    (get >>= f : Handler σ α).Yields kept given failed where
  keeps ran := (rest _).keeps (get_bind_runs.mp ran)
  gives ran := (rest _).gives (get_bind_runs.mp ran)
  fails ran := (rest _).fails (get_bind_runs.mp ran)

theorem yields_set_bind {t : Service σ} {f : PUnit → Handler σ α} (rest : (f ⟨⟩).Yields (fun _ => ()) given failed) :
    (set t >>= f : Handler σ α).Yields (fun _ => ()) given failed where
  keeps _ := rfl
  gives ran := rest.gives (set_bind_runs.mp ran)
  fails ran := rest.fails (set_bind_runs.mp ran)

end

/-- A part of a handler that only looks at the service and runs into ordinary problems at most. -/
abbrev IsPlain (h : Handler σ α) : Prop := h.Yields id (fun _ => True) Problem.IsOrdinary

theorem IsPlain.yields {γ : Type} {h : Handler σ α} (plain : h.IsPlain) (kept : Service σ → γ) :
    h.Yields kept (fun _ => True) Problem.IsOrdinary where
  keeps ran := congrArg kept (plain.keeps ran)
  gives := plain.gives
  fails := plain.fails

/-- A part of a handler that counts a request at most, and then may refuse it. -/
structure IsCheck (h : Handler σ α) : Prop where
  counts : ∀ {s outcome s'}, h.Runs s outcome s' → s.IsLike s'
  refuses : ∀ {s p s'}, h.Runs s (.error p) s' → p.IsRefusal

theorem IsPlain.isCheck {h : Handler σ α} (plain : h.IsPlain) : h.IsCheck where
  counts {s outcome s'} ran := by
    obtain rfl : s' = s := plain.keeps ran
    exact .refl _
  refuses ran := (plain.fails ran).isRefusal

theorem IsCheck.bind {h : Handler σ α} {f : α → Handler σ β} (first : h.IsCheck) (rest : ∀ a, (f a).IsCheck) :
    (h >>= f).IsCheck where
  counts ran := by
    obtain ⟨p, stopped, -⟩ | ⟨a, s₁, went, ended⟩ := bind_runs.mp ran
    · exact first.counts stopped
    · exact (first.counts went).trans ((rest a).counts ended)
  refuses ran := by
    obtain ⟨p, stopped, ⟨⟩⟩ | ⟨a, s₁, -, ended⟩ := bind_runs.mp ran
    · exact first.refuses stopped
    · exact (rest a).refuses ended

end Handler

section

open Handler

theorem refuse_yields {γ : Type} {kept : Service σ → γ} {given : α → Prop} {status : Int} (detail : Content)
    (ordinary : status ∈ Problem.ordinaryStatuses) :
    (refuse status detail : Handler σ α).Yields kept given Problem.IsOrdinary := yields_throw ⟨rfl, ordinary⟩

theorem isPlain_orElse {ε : Type} (e : Except ε α) : IsPlain (orElse .unforeseen e : Handler σ α) := by
  cases e with
  | ok a => exact yields_pure trivial
  | error => exact yields_throw Problem.unforeseen_isOrdinary

theorem isPlain_received (r : Request) : IsPlain (received r : Handler σ Body.Received) := by
  unfold received
  split
  · exact yields_pure trivial
  · exact refuse_yields _ (by decide)
  · exact yields_throw (Problem.invalid_isOrdinary _)

theorem isPlain_faultless (e : Except (List Request.PlacedFault) α) : IsPlain (faultless e : Handler σ α) := by
  cases e with
  | ok a => exact yields_pure trivial
  | error faults => exact yields_throw (Problem.invalid_isOrdinary _)

theorem isPlain_requireStore : IsPlain (requireStore : Handler σ Unit) := by
  refine yields_get_bind fun s => ?_
  split
  · exact yields_pure trivial
  · exact refuse_yields _ (by decide)

theorem isPlain_requireMaker : IsPlain (requireMaker : Handler σ Unit) := by
  refine yields_get_bind fun s => ?_
  split
  · exact yields_pure trivial
  · exact refuse_yields _ (by decide)

theorem isPlain_admitted (outline : Text) : IsPlain (admitted outline : Handler σ Text) := by
  unfold admitted
  dsimp only
  split
  · exact refuse_yields _ (by decide)
  · split
    · exact yields_pure trivial
    · exact yields_throw ⟨rfl, show (400 : Int) ∈ _ by decide⟩

theorem isPlain_refuseDuplicate (now : Instant) (outline : Text) :
    IsPlain (refuseDuplicate now outline : Handler σ Unit) := by
  refine yields_get_bind fun s => (isPlain_orElse _).bind fun since _ => ?_
  split
  · exact yields_pure trivial
  · exact refuse_yields _ (by decide)

theorem isPlain_found (id : Text) : IsPlain (found id : Handler σ Store.Record) := by
  refine yields_get_bind fun s => ?_
  split
  · exact yields_pure trivial
  · exact refuse_yields _ (by decide)

theorem isPlain_showable (record : Store.Record) : IsPlain (showable record : Handler σ Text) := by
  unfold showable
  split
  · exact yields_pure trivial
  · exact refuse_yields _ (by decide)

theorem status?_ordinary {e : Script.CompileError} {status : Nat} (told : e.status? = some status) :
    (status : Int) ∈ Problem.ordinaryStatuses := by
  cases e <;> cases told <;> decide

theorem isPlain_compiled (source : Text) : IsPlain (compiled source : Handler σ Script.Compiled) := by
  refine yields_get_bind fun s => ?_
  dsimp only
  split
  · exact yields_pure trivial
  · split
    · rename_i told
      exact yields_throw ⟨rfl, status?_ordinary told⟩
    · exact yields_throw Problem.unforeseen_isOrdinary

theorem createLesson_yields (now : Instant) (outline : Text) :
    (createLesson now outline : Handler σ Store.Record).Yields (fun _ => ()) (fun _ => True) Problem.IsOrdinary :=
  yields_get_bind fun _ => yields_set_bind <| ((isPlain_orElse _).yields _).bind fun _ _ =>
    yields_set_bind (yields_pure trivial)

/-- The problem of a client that has made too many requests. -/
def Problem.IsTooMany (limit : Int) (d : Quota.Decision) (p : Problem) : Prop :=
  ∃ message seconds headers, d.headers = .ok headers ∧ d.retryAfter = .ok seconds ∧
    p = .pipeline (.quotaExceeded message seconds (some limit) headers)

namespace Meter

variable {m : Meter} {now : Instant} {r : Request} {answer : Except Problem Headers} {quota : Quota.Guard}

theorem verdict_cases {d : Quota.Decision} (told : m.verdict d = .ok answer) :
    (∃ headers, answer = .ok headers ∧ d.isAllowed = true ∧ d.headers = .ok headers) ∨
      ∃ p, answer = .error p ∧ d.isAllowed = false ∧ p.IsTooMany m.limit d := by
  unfold verdict at told
  obtain ⟨headers, window, told⟩ := Except.bind_eq_ok told
  split at told
  · rename_i allowed
    cases told
    exact .inl ⟨headers, rfl, allowed, window⟩
  · rename_i refused
    obtain ⟨seconds, delay, told⟩ := Except.bind_eq_ok told
    obtain ⟨most, -, told⟩ := Except.bind_eq_ok told
    obtain ⟨wait, -, told⟩ := Except.bind_eq_ok told
    cases told
    exact .inr ⟨_, rfl, Bool.not_eq_true _ ▸ refused, _, seconds, headers, window, delay, rfl⟩

/-- How a counted request goes on: it is let through with what it is to be told, or refused as one too many, or there
is nothing that it can be told. -/
theorem count_cases (counted : m.count now r = (answer, quota)) :
    answer = .error .unforeseen ∨ ∃ d, (m.guard.admitVisit (m.visit now r)).1 = .ok d ∧
      ((∃ headers, answer = .ok headers ∧ d.isAllowed = true ∧ d.headers = .ok headers) ∨
        ∃ p, answer = .error p ∧ d.isAllowed = false ∧ p.IsTooMany m.limit d) := by
  unfold count at counted
  rcases decided : m.guard.admitVisit (m.visit now r) with ⟨outcome, after⟩
  rw [decided] at counted
  cases outcome with
  | error e =>
    cases counted
    exact .inl rfl
  | ok d =>
    dsimp only at counted
    split at counted
    · cases counted
      exact .inl rfl
    · rename_i told
      cases counted
      exact .inr ⟨d, rfl, verdict_cases told⟩

theorem count_isRefusal (refused : m.count now r = (.error p, quota)) : p.IsRefusal := by
  obtain same | ⟨d, -, ⟨headers, same, -⟩ | ⟨p', same, -, tooMany⟩⟩ := count_cases refused
  · cases same
    exact Problem.unforeseen_isOrdinary.isRefusal
  · cases same
  · cases same
    obtain ⟨-, -, -, -, -, rfl⟩ := tooMany
    exact Problem.isRefusal_of_status (show (429 : Int) ≠ 200 by decide)

end Meter

theorem enforceGeneration_runs {now : Instant} {r : Request} {outcome : Except Problem Headers}
    (ran : Handler.Runs (enforceGeneration now r) s outcome s') :
    ∃ quota, s.generationMeter.count now r = (outcome, quota) ∧ s' = { s with generationQuota := quota } := by
  unfold enforceGeneration at ran
  rw [get_bind_runs] at ran
  rcases decided : s.generationMeter.count now r with ⟨_ | _, quota⟩
  all_goals
    rw [decided] at ran
    cases ran
    exact ⟨quota, rfl, rfl⟩

theorem isCheck_enforceGeneration (now : Instant) (r : Request) :
    IsCheck (enforceGeneration now r : Handler σ Headers) where
  counts ran := by
    obtain ⟨quota, -, same⟩ := enforceGeneration_runs ran
    exact ⟨quota, same⟩
  refuses ran := by
    obtain ⟨quota, refused, -⟩ := enforceGeneration_runs ran
    exact Meter.count_isRefusal refused

theorem enforceCompilation_runs {now : Instant} {r : Request} {outcome : Except Problem Headers}
    (ran : Handler.Runs (enforceCompilation now r) s outcome s') :
    ∃ quota, s.compileMeter.count now r = (outcome, quota) ∧ s' = { s with compileQuota := quota } := by
  unfold enforceCompilation at ran
  rw [get_bind_runs] at ran
  rcases decided : s.compileMeter.count now r with ⟨_ | _, quota⟩
  all_goals
    rw [decided] at ran
    cases ran
    exact ⟨quota, rfl, rfl⟩

end

end LessonService.Web
