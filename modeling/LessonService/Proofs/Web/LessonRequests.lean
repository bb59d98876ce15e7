import LessonService.Proofs.Generation.ReviewedContent
import LessonService.Proofs.Text.Trim
import LessonService.Proofs.Web.Answers
import LessonService.Proofs.Web.Rendering

namespace LessonService.Web

open Handler Generation

variable {σ : Type} {s s' : Service σ} {now : Instant} {r : Request} {p : Problem} {outline : Text}

theorem received_ok {body : Body.Received} (ran : (received r).Runs s (.ok body) s') : Body.receive r = .ok body := by
  unfold received at ran
  cases arrived : Body.receive r with
  | ok b =>
    rw [arrived] at ran
    cases ran
    rfl
  | error e =>
    rw [arrived] at ran
    cases e <;> cases ran

theorem faultless_ok {e : Except (List Request.PlacedFault) α} {a : α} (ran : (faultless e).Runs s (.ok a) s') :
    e = .ok a := by
  cases e with
  | ok b =>
    cases ran
    rfl
  | error faults => cases ran

theorem orElse_ok {ε : Type} {e : Except ε α} {a : α} (ran : (orElse p e).Runs s (.ok a) s') : e = .ok a ∧ s' = s := by
  cases e with
  | ok b =>
    cases ran
    exact ⟨rfl, rfl⟩
  | error => cases ran

theorem requireMaker_ok (ran : requireMaker.Runs s (.ok ()) s') : s.maker.isSome = true := by
  unfold requireMaker at ran
  rw [get_bind_runs] at ran
  split at ran
  · assumption
  · cases ran

theorem admitted_ok {sent : Text} (ran : (admitted sent).Runs s (.ok outline) s') :
    outline = Text.trim sent ∧ Request.rejection? (Text.trim sent) = none := by
  unfold admitted at ran
  dsimp only at ran
  split at ran
  · cases ran
  · split at ran
    · rename_i none_
      exact ⟨(Except.ok.inj (pure_runs.mp ran).1), none_⟩
    · cases ran

/-- No lesson with the outline has been made lately that is not known to have failed. -/
def IsNew (s : Service σ) (now : Instant) (outline : Text) : Prop :=
  ∃ since, now.minusSeconds s.settings.duplicateWindow = .ok since ∧ s.store.findDuplicate? outline since = none

theorem refuseDuplicate_ok (ran : (refuseDuplicate now outline).Runs s (.ok ()) s') : IsNew s now outline ∧ s' = s := by
  unfold refuseDuplicate at ran
  rw [get_bind_runs] at ran
  obtain ⟨since, s₁, counted, ran⟩ := ran.bind_ok
  obtain ⟨counted, rfl⟩ := orElse_ok counted
  cases found : s₁.store.findDuplicate? outline since with
  | none =>
    rw [found] at ran
    exact ⟨⟨since, counted, found⟩, (pure_runs.mp ran).2⟩
  | some existing =>
    rw [found] at ran
    cases ran

theorem createLesson_of_taken (taken : (s.store.find? (s.draws.lessonId (s.lessonsAsked + 1))).isSome = true) :
    (createLesson now outline).Runs s (.error .unforeseen) { s with lessonsAsked := s.lessonsAsked + 1 } := by
  have refused : s.store.create now (s.draws.lessonId (s.lessonsAsked + 1)) outline Store.interimTitle =
      .error .duplicateId := by
    simp [Store.create, taken]
  unfold createLesson
  rw [get_bind_runs]
  dsimp only
  rw [set_bind_runs, refused]
  rfl

theorem createLesson_of_free (now : Instant) (outline : Text)
    (free : s.store.find? (s.draws.lessonId (s.lessonsAsked + 1)) = none) :
    let row := Store.Record.start now (s.draws.lessonId (s.lessonsAsked + 1)) outline Store.interimTitle
    (createLesson now outline).Runs s (.ok row)
      { s with lessonsAsked := s.lessonsAsked + 1, store := ⟨s.store.records ++ [row]⟩ } := by
  intro row
  have stored : s.store.create now (s.draws.lessonId (s.lessonsAsked + 1)) outline Store.interimTitle =
      .ok (row, ⟨s.store.records ++ [row]⟩) := by
    simp [Store.create, free, row]
  unfold createLesson
  rw [get_bind_runs]
  dsimp only
  rw [set_bind_runs, stored]
  rfl

/-- A new lesson is stored, unless its identity is taken. -/
theorem createLesson_runs {outcome : Except Problem Store.Record} (ran : (createLesson now outline).Runs s outcome s') :
    let number := s.lessonsAsked + 1
    let lessonId := s.draws.lessonId number
    let row := Store.Record.start now lessonId outline Store.interimTitle
    outcome = .error .unforeseen ∧ s' = { s with lessonsAsked := number } ∨
      s.store.find? lessonId = none ∧ outcome = .ok row ∧
        s' = { s with lessonsAsked := number, store := ⟨s.store.records ++ [row]⟩ } := by
  intro number lessonId row
  cases taken : s.store.find? lessonId with
  | some old => exact .inl (ran.eq (createLesson_of_taken (Option.isSome_of_eq_some taken)))
  | none => exact .inr ⟨rfl, ran.eq (createLesson_of_free now outline taken)⟩

/-- What comes before a lesson is stored: the headers of the answer and the outline. -/
def checked (now : Instant) (r : Request) : Handler σ (Headers × Text) := do
  let body ← received r
  let headers ← enforceGeneration now r
  requireStore
  requireMaker
  let outline ← admitted (← faultless (Body.onlyText "outline" body))
  refuseDuplicate now outline
  return (headers, outline)

/-- What is stored and answered then. -/
def answerNew (now : Instant) (headers : Headers) (outline : Text) : Handler σ Reply := do
  let record ← createLesson now outline
  let response ← answerWith headers (.record [("lesson", lessonContent record)])
  return ⟨response, some { lessonId := record.lessonId, outline }⟩

theorem generate_eq (now : Instant) (r : Request) :
    (generate now r : Handler σ Reply) = checked now r >>= fun (headers, outline) => answerNew now headers outline := by
  simp [generate, checked, answerNew, bind_assoc]

theorem isCheck_checked (now : Instant) (r : Request) : IsCheck (checked now r : Handler σ (Headers × Text)) :=
  (isPlain_received r).isCheck.bind fun _ => (isCheck_enforceGeneration now r).bind fun _ =>
    isPlain_requireStore.isCheck.bind fun _ => isPlain_requireMaker.isCheck.bind fun _ =>
      (isPlain_faultless _).isCheck.bind fun _ => (isPlain_admitted _).isCheck.bind fun _ =>
        (isPlain_refuseDuplicate now _).isCheck.bind fun _ => IsPlain.isCheck (yields_pure trivial)

/-- A request for a lesson that nothing is held against. -/
structure IsTakenUp (s : Service σ) (now : Instant) (r : Request) (sent : Text) : Prop where
  read : ∃ body, Body.receive r = .ok body ∧ Body.onlyText "outline" body = .ok sent
  admitted : Request.rejection? (Text.trim sent) = none
  isNew : IsNew s now (Text.trim sent)
  maker : s.maker.isSome = true

theorem checked_ok {headers : Headers} (ran : (checked now r).Runs s (.ok (headers, outline)) s') :
    ∃ sent, outline = Text.trim sent ∧ IsTakenUp s now r sent := by
  obtain ⟨body, s₁, arrived, ran⟩ := ran.bind_ok
  obtain ⟨_, s₂, counted, ran⟩ := ran.bind_ok
  obtain ⟨_, s₃, held, ran⟩ := ran.bind_ok
  obtain ⟨_, s₄, manned, ran⟩ := ran.bind_ok
  obtain ⟨sent, s₅, read, ran⟩ := ran.bind_ok
  obtain ⟨taken, s₆, passed, ran⟩ := ran.bind_ok
  obtain ⟨_, s₇, searched, ran⟩ := ran.bind_ok
  have like₃ : s.IsLike s₃ := ((isPlain_received r).isCheck.counts arrived).trans
    (((isCheck_enforceGeneration now r).counts counted).trans (isPlain_requireStore.isCheck.counts held))
  have like₆ : s.IsLike s₆ := like₃.trans ((isPlain_requireMaker.isCheck.counts manned).trans
    (((isPlain_faultless _).isCheck.counts read).trans ((isPlain_admitted _).isCheck.counts passed)))
  obtain ⟨rfl, admitted⟩ := admitted_ok passed
  obtain ⟨same, -⟩ := pure_runs.mp ran
  cases same
  refine ⟨sent, rfl, ⟨body, received_ok arrived, faultless_ok read⟩, admitted, ?_, ?_⟩
  · obtain ⟨since, passed, unfound⟩ := (refuseDuplicate_ok searched).1
    exact ⟨since, like₆.settings_eq ▸ passed, like₆.store_eq ▸ unfound⟩
  · exact like₃.maker_eq ▸ requireMaker_ok manned

theorem isEncodable_of_admitted {t : Text} (admitted : Request.rejection? (Text.trim t) = none) :
    (Text.trim t).IsEncodable := by
  unfold Request.rejection? at admitted
  split at admitted
  · cases admitted
  · rw [(Text.trim_isTrimmed t).trim_eq] at admitted
    have visible : (Text.trim t).any Request.isInvisible = false := by
      by_contra hidden
      rw [Bool.not_eq_false] at hidden
      unfold Request.rejectionOf? at admitted
      split at admitted
      · cases admitted
      · split at admitted
        · cases admitted
        · cases admitted
    intro c member
    have seen := List.any_eq_false.mp visible c member
    simp only [Request.isInvisible, Bool.or_eq_true, not_or] at seen
    simpa using seen.2

theorem lessonContent_isSendable {row : Store.Record} (lessonId : row.lessonId.IsEncodable)
    (title : row.title.IsEncodable) (outline : row.outline.IsEncodable)
    (content : ∀ t, row.content = some t → t.IsEncodable) (message : ∀ t, row.message = some t → t.IsEncodable)
    (levels : Nat) : (lessonContent row).IsSendable (levels + 1) := by
  have time (i : Instant) : (instantText i).IsEncodable := by
    simp [instantText, DateTime.toText_isEncodable]
  refine Content.record_isSendable ?_
  simp only [List.forall_mem_cons, Text.ofString_isEncodable, true_and]
  refine ⟨Content.text_isSendable lessonId, Content.text_isSendable title, Content.text_isSendable outline,
    Content.text_isSendable ?_, Content.ofOption_text_isSendable content, Content.ofOption_text_isSendable message,
    Content.text_isSendable (time _), Content.text_isSendable (time _), fun _ member => absurd member List.not_mem_nil⟩
  cases row.status <;> exact Text.ofString_isEncodable _

theorem answerWith_runs {headers : Headers} {c : Content} {outcome : Except Problem Response}
    (sendable : c.IsSendable Content.maxDepth) (ran : (answerWith headers c).Runs s outcome s') :
    s' = s ∧ ∃ response, outcome = .ok response ∧ response.status = 200 ∧ c.render = .ok response.body := by
  obtain ⟨body, rendered⟩ := sendable.render
  unfold answerWith Response.ofContent at ran
  rw [rendered] at ran
  cases ran
  exact ⟨rfl, _, rfl, rfl, rendered⟩

/-- A lesson is stored and told of, unless the identity that was drawn for it is taken. -/
theorem answerNew_runs {headers : Headers} {outcome : Except Problem Reply}
    (identity : ∀ n, (s.draws.lessonId n).IsEncodable) (encodable : outline.IsEncodable)
    (ran : (answerNew now headers outline).Runs s outcome s') :
    let number := s.lessonsAsked + 1
    let lessonId := s.draws.lessonId number
    let row := Store.Record.start now lessonId outline Store.interimTitle
    outcome = .error .unforeseen ∧ s' = { s with lessonsAsked := number } ∨
      s.store.find? lessonId = none ∧
        s' = { s with lessonsAsked := number, store := ⟨s.store.records ++ [row]⟩ } ∧
        ∃ response : Response, response.status = 200 ∧ outcome = .ok ⟨response, some { lessonId, outline }⟩ := by
  intro number lessonId row
  obtain ⟨p, stopped, rfl⟩ | ⟨record, s₁, stored, ran⟩ := bind_runs.mp ran
  · obtain ⟨same, rfl⟩ | ⟨-, ⟨⟩, -⟩ := createLesson_runs stopped
    cases same
    exact .inl ⟨rfl, rfl⟩
  · obtain ⟨⟨⟩, -⟩ | ⟨free, ⟨⟩, rfl⟩ := createLesson_runs stored
    right
    have sendable : (lessonContent row).IsSendable 984 :=
      lessonContent_isSendable (identity number) (Text.ofString_isEncodable _) encodable
        (by simp [row, Store.Record.start]) (by simp [row, Store.Record.start]) 983
    have shown : (Content.record [("lesson", lessonContent row)]).IsSendable Content.maxDepth :=
      Content.record_isSendable (by simp [sendable])
    obtain ⟨p, stopped, -⟩ | ⟨response, s₂, answered, ran⟩ := bind_runs.mp ran
    · obtain ⟨-, _, ⟨⟩, -⟩ := answerWith_runs shown stopped
    · obtain ⟨rfl, _, ⟨⟩, status, -⟩ := answerWith_runs shown answered
      obtain ⟨rfl, rfl⟩ := pure_runs.mp ran
      exact ⟨free, rfl, response, status, rfl⟩

/-- Work that is done writes to the record of its lesson, if that is still generating, and to no other one. -/
theorem finish_records (s : Service σ) (now : Instant) (work : Generation.Request) (manned : s.maker.isSome = true) :
    ∃ w : FinalWrite, (s.finish now work).store.records =
      s.store.records.map fun row => if Store.isUnfinished work.lessonId row then w.finished now row else row := by
  obtain ⟨maker, made⟩ := Option.isSome_iff_exists.mp manned
  have applied (ending : Ending) := (FinalWrite.ofEnding s.settings.generationTimeout ending).apply_eq s.store now
    work.lessonId fun _ _ written => FinalWrite.ofEnding_filled written
  refine ⟨.ofEnding s.settings.generationTimeout (maker.make s.settings.generationTimeout work s.makerState).1, ?_⟩
  unfold Service.finish
  rw [made]
  dsimp only
  rw [applied]

/-- A record of the same lesson, with the same outline and from the same time, that is finished. -/
structure IsFinishOf (old new : Store.Record) : Prop where
  lessonId : new.lessonId = old.lessonId
  outline : new.outline = old.outline
  createdAt : new.createdAt = old.createdAt
  finished : new.status = .generated ∨ new.status = .failed

/-- What is stored of a lesson is finished, and all the others are as before. -/
def Finishes (lessonId : Text) (before after : Store) : Prop :=
  ∃ finished : Store.Record → Store.Record,
    after.records = before.records.map (fun row => if row.lessonId = lessonId then finished row else row) ∧
    ∀ row, row.lessonId = lessonId → IsFinishOf row (finished row)

theorem finish_finishes (s : Service σ) (now : Instant) (work : Generation.Request) (manned : s.maker.isSome = true) :
    Finishes work.lessonId s.store (s.finish now work).store := by
  obtain ⟨w, written⟩ := finish_records s now work manned
  refine ⟨fun row => if Store.isUnfinished work.lessonId row then w.finished now row else row, ?_, ?_⟩
  · rw [written]
    refine List.map_congr_left fun row _ => ?_
    by_cases own : row.lessonId = work.lessonId
    · rw [if_pos own]
    · rw [if_neg own, if_neg fun unfinished => own (Store.isUnfinished_iff.mp unfinished).1]
  · intro row own
    dsimp only
    by_cases unfinished : row.status = .generating
    · rw [if_pos (Store.isUnfinished_iff.mpr ⟨own, unfinished⟩)]
      cases w with
      | generated title content => exact ⟨rfl, rfl, rfl, .inl rfl⟩
      | failed message => exact ⟨rfl, rfl, rfl, .inr rfl⟩
    · rw [if_neg fun open_ => unfinished (Store.isUnfinished_iff.mp open_).2]
      refine ⟨rfl, rfl, rfl, ?_⟩
      cases status : row.status with
      | generating => exact absurd status unfinished
      | generated => exact .inl rfl
      | failed => exact .inr rfl

/-- A lesson that was added last, and is finished then. -/
theorem Finishes.of_added {before after : Store} (row : Store.Record) (free : before.find? row.lessonId = none)
    (finishes : Finishes row.lessonId ⟨before.records ++ [row]⟩ after) :
    ∃ row', after.records = before.records ++ [row'] ∧ IsFinishOf row row' := by
  obtain ⟨finished, records, own⟩ := finishes
  refine ⟨finished row, ?_, own row rfl⟩
  have others : before.records.map (fun old => if old.lessonId = row.lessonId then finished old else old) =
      before.records := by
    refine (List.map_congr_left fun old member => ?_).trans (List.map_id _)
    have other : old.lessonId ≠ row.lessonId := fun same =>
      Store.find?_eq_none_iff.mp free (List.mem_map.mpr ⟨old, member, same⟩)
    exact if_neg other
  simpa [others] using records

/-- A request for a lesson is refused and the store kept, or a lesson is added and told of. -/
theorem generate_runs {outcome : Except Problem Reply} (identity : ∀ n, (s.draws.lessonId n).IsEncodable)
    (ran : (generate now r).Runs s outcome s') :
    (∃ p, outcome = .error p ∧ p.IsRefusal ∧ s'.store = s.store) ∨
      ∃ sent lessonId, IsTakenUp s now r sent ∧ s.store.find? lessonId = none ∧
        s'.store.records =
          s.store.records ++ [Store.Record.start now lessonId (Text.trim sent) Store.interimTitle] ∧
        s'.maker = s.maker ∧ ∃ response : Response, response.status = 200 ∧
          outcome = .ok ⟨response, some { lessonId, outline := Text.trim sent }⟩ := by
  rw [generate_eq] at ran
  obtain ⟨p, stopped, rfl⟩ | ⟨⟨headers, outline⟩, s₁, passed, ran⟩ := bind_runs.mp ran
  · exact .inl ⟨p, rfl, (isCheck_checked now r).refuses stopped, ((isCheck_checked now r).counts stopped).store_eq⟩
  · obtain ⟨quota, rfl⟩ := (isCheck_checked now r).counts passed
    obtain ⟨sent, rfl, taken⟩ := checked_ok passed
    obtain ⟨rfl, rfl⟩ | ⟨free, rfl, response, status, rfl⟩ :=
      answerNew_runs (s := { s with generationQuota := quota }) identity (isEncodable_of_admitted taken.admitted) ran
    · exact .inl ⟨_, rfl, Problem.unforeseen_isOrdinary.isRefusal, rfl⟩
    · exact .inr ⟨sent, _, taken, free, rfl, rfl, response, status, rfl⟩

/-- A request for a lesson that is not answered with success leaves the lessons as they were. One that is adds a
lesson that is generating, with the trimmed outline and an identity that no other has; and whenever the work that
is to be done after the answer is done, it finishes this lesson and leaves the others as they are. -/
theorem reply_generate_store (s : Service σ) (now : Instant) (r : Request) (asked : Route.ofRequest r = .found .generate)
    (identity : ∀ n, (s.draws.lessonId n).IsEncodable) :
    let reply := (s.reply now r).1
    let after := (s.reply now r).2
    (s.serve now r).1.status = reply.response.status ∧
    (reply.response.status ≠ 200 → after.store = s.store ∧ (s.serve now r).2.store = s.store) ∧
    (reply.response.status = 200 → ∃ sent lessonId,
      let work : Generation.Request := { lessonId, outline := Text.trim sent }
      let row := Store.Record.start now lessonId (Text.trim sent) Store.interimTitle
      IsTakenUp s now r sent ∧ s.store.find? lessonId = none ∧ after.store.records = s.store.records ++ [row] ∧
      reply.work = some work ∧
      (∀ (t : Service σ) later, t.maker = after.maker → Finishes lessonId t.store (t.finish later work).store) ∧
      ∃ row', (s.serve now r).2.store.records = s.store.records ++ [row'] ∧ IsFinishOf row row') := by
  obtain ⟨outcome, s', ran, replied⟩ := reply_found_eq s now asked
  have served : s.serve now r = (bodiless r (s.reply now r).1.response,
      (s.reply now r).1.work.elim (s.reply now r).2 ((s.reply now r).2.finish now)) := rfl
  rw [served, replied]
  have status (a : Response) : (bodiless r a).status = a.status := by
    unfold bodiless
    split <;> rfl
  refine ⟨status _, ?_⟩
  obtain ⟨p, rfl, refusing, same⟩ | ⟨sent, lessonId, taken, free, added, maker, response, success, rfl⟩ :=
    generate_runs (s := { s with requestsSeen := s.requestsSeen + 1 }) identity ran
  · obtain ⟨failed, idle⟩ := answered_error s.sharing r (s.draws.requestId (s.requestsSeen + 1)) refusing
    rw [idle]
    exact ⟨fun _ => ⟨same, same⟩, fun succeeded => absurd succeeded failed⟩
  · obtain ⟨told, work⟩ := answered_ok s.sharing r (s.draws.requestId (s.requestsSeen + 1))
      ⟨response, some { lessonId, outline := Text.trim sent }⟩
    rw [told, work]
    have takenUp : IsTakenUp s now r sent := ⟨taken.read, taken.admitted, taken.isNew, taken.maker⟩
    refine ⟨fun failed => absurd success failed, fun _ => ⟨sent, lessonId, takenUp, free, added, rfl, ?_, ?_⟩⟩
    · intro t later same
      exact finish_finishes t later _ (same ▸ maker ▸ taken.maker)
    · have finishes := finish_finishes s' now { lessonId, outline := Text.trim sent } (maker ▸ taken.maker)
      have last : s'.store = ⟨s.store.records ++ [.start now lessonId (Text.trim sent) Store.interimTitle]⟩ :=
        congrArg Store.mk added
      rw [last] at finishes
      exact Finishes.of_added (.start now lessonId (Text.trim sent) Store.interimTitle) free finishes

/-- A request in a service that draws identities as they are drawn, and whose lesson is not made in time. -/
theorem reply_generate_store_timedOut :
    let settings : Settings := {
      environment := "development", allowedOrigins := ["http://localhost:3000"], debug := false
      logMaxBytes := 5242880, logBackupCount := 10, logsClientErrors := false, dsn := some "sqlite://"
      connectTimeout := 5, geminiKey := none, openRouterKey := none, provider := .gemini, generationModel := "m"
      titleModel := "m", maxAttempts := 3, generationTimeout := 600, generationLimit := 5, generationWindow := 60000
      compileLimit := 30, compileWindow := 60000, cleanupProbability := .finite 0, duplicateWindow := 300
      compileMaxChars := 500000, compileMinChars := 100, retentionDays := 7, reactUrl := "r", reactDomUrl := "d"
      tailwindUrl := "t" }
    let identity (n : Nat) := Identity.ofRandom (List.replicate 16 n)
    let draws : Draws := ⟨fun n => (identity n).compactText, fun n => (identity n).groupedText, [], fun _ => 1⟩
    let s : Service Unit := .start settings draws (some ⟨fun _ _ state => (.timedOut, state)⟩) ()
    let r : Request := {
      method := "POST", path := "/v1/lessons/generate", query := [], headers := [("content-type", "application/json")]
      body := "\x7b\"outline\":\" Explain photosynthesis \"\x7d", peer := none }
    let now : Instant := ⟨1704067200000000⟩
    Route.ofRequest r = .found .generate ∧ (∀ n, (s.draws.lessonId n).IsEncodable) ∧ (s.serve now r).1.status = 200 ∧
      ∃ row, (s.serve now r).2.store.records = [row] ∧ row.outline = ("Explain photosynthesis" : Text) ∧
        row.status = .failed := by
  intro settings identity draws s r now
  have asked : Route.ofRequest r = .found .generate := by decide +kernel
  have encodable (n : Nat) : (s.draws.lessonId n).IsEncodable := (identity n).groupedText_isEncodable
  obtain ⟨status, -, added⟩ := reply_generate_store s now r asked encodable
  have told : ((s.serve now r).1.status, (s.serve now r).2.store.records.map fun row => (row.outline, row.status)) =
      (200, [(Text.ofString "Explain photosynthesis", Store.Status.failed)]) := by decide +kernel
  obtain ⟨success, stored⟩ := Prod.mk.inj told
  obtain ⟨sent, lessonId, -, -, -, -, -, row, records, same⟩ := added (status.symm.trans success)
  rw [records] at stored
  obtain ⟨outline, failed⟩ := Prod.mk.inj (List.cons.inj stored).1
  exact ⟨asked, encodable, success, row, records, outline, failed⟩

end LessonService.Web
