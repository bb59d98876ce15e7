import LessonService.Proofs.Web.Handling
import LessonService.Proofs.Web.Headers

namespace LessonService.Web

open Handler

variable {σ : Type} {s s' : Service σ} {now : Instant} {r : Request} {p : Problem}

/-- A problem that the service knows an answer to. -/
def Problem.IsForeseen (p : Problem) (requestId : Text) : Prop :=
  p ≠ .unforeseen ∧ ∃ a, p.response (some requestId) = .ok a

theorem answered_of_foreseen {requestId : Text} {a : Response} (sharing : Sharing) (r : Request)
    (foreseen : p ≠ .unforeseen) (answer : p.response (some requestId) = .ok a) :
    answered sharing r requestId (.error p) = ⟨answered.finished sharing r requestId a, none⟩ := by
  cases p with
  | unforeseen => exact absurd rfl foreseen
  | _ => simp [answered, answer]

theorem answered_of_unforeseen {requestId : Text} (sharing : Sharing) (r : Request)
    (unforeseen : ¬p.IsForeseen requestId) :
    answered sharing r requestId (.error p) = ⟨Problem.blankResponse requestId, none⟩ := by
  cases answer : p.response (some requestId) with
  | ok a =>
    cases p with
    | unforeseen => rfl
    | _ => exact absurd ⟨nofun, a, answer⟩ unforeseen
  | error e => cases p <;> simp [answered, answer]

/-- The service knows an answer to what has become of a request. -/
def IsKnown (requestId : Text) : Except Problem Reply → Prop
  | .ok _ => True
  | .error p => p.IsForeseen requestId

theorem mark_status (sharing : Sharing) (r : Request) (a : Response) : (sharing.mark r a).status = a.status := by
  unfold Sharing.mark
  dsimp only
  split <;> rfl

theorem mark_body (sharing : Sharing) (r : Request) (a : Response) : (sharing.mark r a).body = a.body := by
  unfold Sharing.mark
  dsimp only
  split <;> rfl

theorem answered_ok (sharing : Sharing) (r : Request) (requestId : Text) (reply : Reply) :
    (answered sharing r requestId (.ok reply)).response.status = reply.response.status ∧
      (answered sharing r requestId (.ok reply)).work = reply.work := ⟨mark_status sharing r reply.response, rfl⟩

theorem answered_error (sharing : Sharing) (r : Request) (requestId : Text) (refusing : p.IsRefusal) :
    (answered sharing r requestId (.error p)).response.status ≠ 200 ∧
      (answered sharing r requestId (.error p)).work = none := by
  by_cases foreseen : p.IsForeseen requestId
  · obtain ⟨foreseen, a, answer⟩ := foreseen
    rw [answered_of_foreseen sharing r foreseen answer]
    exact ⟨(mark_status sharing r a).symm ▸ refusing _ _ answer, rfl⟩
  · rw [answered_of_unforeseen sharing r foreseen]
    exact ⟨Problem.blankResponse_status requestId ▸ by decide, rfl⟩

/-- Nothing but the body may be dropped. -/
theorem bodiless_eq (r : Request) (a : Response) : ∃ body, bodiless r a = { a with body } := by
  unfold bodiless
  split
  · exact ⟨[], rfl⟩
  · exact ⟨a.body, rfl⟩

/-- A request that does not ask beforehand is answered with what has become of it. -/
theorem reply_routed (s : Service σ) (now : Instant) (unasked : Sharing.question? r = none) :
    ∃ outcome s', (routed now r).Runs { s with requestsSeen := s.requestsSeen + 1 } outcome s' ∧
      s.reply now r = (answered s.sharing r (s.draws.requestId (s.requestsSeen + 1)) outcome, s') := by
  obtain ⟨outcome, s', ran⟩ := exists_runs (routed now r) { s with requestsSeen := s.requestsSeen + 1 }
  refine ⟨outcome, s', ran, ?_⟩
  unfold Service.reply
  rw [unasked]
  exact congrArg (fun x => (answered s.sharing r (s.draws.requestId (s.requestsSeen + 1)) x.1, x.2)) ran

theorem method_of_found {e : Endpoint} (found : Route.ofRequest r = .found e) : e.method = r.method := by
  unfold Route.ofRequest at found
  dsimp only at found
  split at found
  · rename_i matched
    cases found
    simpa using List.find?_some matched
  · cases found
  · split at found <;> cases found

theorem getOrPost_of_found {e : Endpoint} (found : Route.ofRequest r = .found e) :
    r.method = ("GET" : Text) ∨ r.method = ("POST" : Text) := by
  rw [← method_of_found found]
  cases e with
  | generate | compile => exact .inr rfl
  | _ => exact .inl rfl

/-- A request that goes to an endpoint is answered with what has become of it there. -/
theorem reply_found_eq {e : Endpoint} (s : Service σ) (now : Instant) (asked : Route.ofRequest r = .found e) :
    ∃ outcome s', (atEndpoint now r e).Runs { s with requestsSeen := s.requestsSeen + 1 } outcome s' ∧
      s.reply now r = (answered s.sharing r (s.draws.requestId (s.requestsSeen + 1)) outcome, s') := by
  have sent : r.method ≠ ("OPTIONS" : Text) := by
    rcases getOrPost_of_found asked with method | method <;> rw [method] <;> decide
  have unasked : Sharing.question? r = none := by
    unfold Sharing.question?
    split
    · rw [if_neg sent]
    · rfl
  have here : (routed now r : Handler σ Reply) = atEndpoint now r e := by
    unfold routed
    rw [asked]
  exact here ▸ reply_routed s now unasked

/-- What an endpoint makes of a request is answered, and the request has left its number. -/
theorem serve_found_eq {e : Endpoint} {outcome : Except Problem Reply} (asked : Route.ofRequest r = .found e)
    (ran : (atEndpoint now r e).Runs { s with requestsSeen := s.requestsSeen + 1 } outcome s') :
    let reply := answered s.sharing r (s.draws.requestId (s.requestsSeen + 1)) outcome
    s.serve now r = (reply.response, reply.work.elim s' (s'.finish now)) := by
  intro reply
  obtain ⟨outcome', after, ran', replied⟩ := reply_found_eq s now asked
  obtain ⟨rfl, rfl⟩ := ran.eq ran'
  have served : s.serve now r = (bodiless r (s.reply now r).1.response,
      (s.reply now r).1.work.elim (s.reply now r).2 ((s.reply now r).2.finish now)) := rfl
  have whole (a : Response) : bodiless r a = a := by
    refine if_neg ?_
    rcases getOrPost_of_found asked with method | method <;> rw [method] <;> decide
  rw [served, replied, whole]

end LessonService.Web
