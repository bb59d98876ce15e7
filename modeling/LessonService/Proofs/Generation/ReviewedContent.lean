import LessonService.Generation.Run
import LessonService.Proofs.Generation.Replies
import LessonService.Proofs.Review.Acceptance
import LessonService.Proofs.Store.Lookup

namespace LessonService.Generation

variable {plan : Plan} {r : Request} {now : Instant} {s : Store} {row : Store.Record}

/-- What is known of code that is made while something is heard. -/
structure IsReviewed (plan : Plan) (heard : List (Question × Except Failure Answer)) (code : Text) : Prop where
  /-- The last reply, but for one that was asked for a title. -/
  source : ∃ q answer, (heard.filter fun exchange => exchange.1.role ≠ .titler).getLast? = some (q, .ok answer) ∧
    code = cleanCode answer.content
  accepted : ∃ seen, (plan.validator seen code).isValid = true

theorem IsReviewed.review_eq_nil {heard : List (Question × Except Failure Answer)} {code : Text}
    (reviewed : IsReviewed plan heard code) (standard : plan.validator = standardValidator) :
    Review.review code = [] := by
  obtain ⟨seen, accepted⟩ := reviewed.accepted
  rw [standard] at accepted
  exact List.isEmpty_iff.mp accepted

theorem generateLesson_reviewed {heard : List (Question × Except Failure Answer)} {lesson : Lesson}
    (run : (generateLesson plan r).Gives heard (.ok lesson)) : IsReviewed plan heard lesson.code := by
  obtain ⟨tried, p, titling, rfl, attempted, concluded⟩ := Dialogue.bind_gives.mp run
  obtain ⟨calls, made, rfl, -⟩ := attempts_gives attempted
  obtain ⟨j, unfailed, judged, -, same, accepted, titled⟩ := conclude_ok concluded
  have reflects := Progress.after_reflects plan.validator r.attempt calls
  rw [reflects.failure] at unfailed
  rw [reflects.judged] at judged
  rw [same]
  refine ⟨?_, _, accepted⟩
  rcases List.eq_nil_or_concat' calls with rfl | ⟨first, call, rfl⟩
  · cases judged
  cases outcome : call.outcome with
  | error e => simp [AgentCall.failure?, outcome] at unfailed
  | ok d =>
    obtain ⟨before, last, rfl, _, drafted⟩ := made.concat
    obtain ⟨reply, concerns, cleaned⟩ := draft_concerns drafted
    obtain ⟨answer, rfl, rfl⟩ := cleaned d outcome
    rw [drafts_concat_ok first outcome, List.getLast?_concat] at judged
    cases judged
    have kept : (before ++ last).filter (fun exchange => exchange.1.role ≠ .titler) = before ++ last :=
      List.filter_eq_self.mpr fun exchange member => decide_eq_true (made.role_ne exchange member)
    have dropped : titling.filter (fun exchange => exchange.1.role ≠ .titler) = [] :=
      List.filter_eq_nil_iff.mpr fun exchange member => by simp [title_role titled exchange member]
    refine ⟨call.task.question, answer, ?_, rfl⟩
    rw [List.filter_append, kept, dropped, List.append_nil, List.getLast?_append, concerns.ended]
    rfl

theorem structureFault?_eq_none {code : Text} (shaped : structureFault? code = none) :
    minCodeLength ≤ code.length ∧ Text.contains "export default function" code = true ∧
      Text.contains "return" code = true := by
  unfold structureFault? at shaped
  split at shaped
  · cases shaped
  · split at shaped
    · cases shaped
    · simp_all

theorem FinalWrite.ofEnding_generated {timeout : Int} {ending : Ending} {title content : Text}
    (written : ofEnding timeout ending = .generated title content) :
    ending = .made content title ∧ structureFault? content = none := by
  cases ending with
  | timedOut => cases written
  | failed e => cases e <;> cases written
  | made code t =>
    simp only [ofEnding] at written
    split at written
    · cases written
    · cases written
      exact ⟨rfl, ‹_›⟩

/-- What a final write makes of a record that is not finished. -/
def FinalWrite.finished (now : Instant) (row : Store.Record) : FinalWrite → Store.Record
  | generated title content => row.succeed now title content
  | failed message => row.fail now message

theorem FinalWrite.ofEnding_filled {timeout : Int} {ending : Ending} {title content : Text}
    (written : ofEnding timeout ending = .generated title content) : content.isEmpty = false := by
  obtain ⟨-, shaped⟩ := ofEnding_generated written
  obtain ⟨long, -⟩ := structureFault?_eq_none shaped
  cases content with
  | nil => exact absurd long (by decide)
  | cons => rfl

theorem FinalWrite.perform_operation (w : FinalWrite) (store : Store) (now : Instant) (lessonId : Text)
    (filled : ∀ title content, w = .generated title content → content.isEmpty = false) :
    ∃ changed, (w.operation lessonId).perform now store = .ok (.finished changed,
      ⟨store.records.map fun row => if Store.isUnfinished lessonId row then w.finished now row else row⟩) := by
  cases w with
  | generated title content =>
    refine ⟨(Store.finish lessonId (Store.Record.succeed now title content) store).1, ?_⟩
    simp [operation, Store.Operation.perform, Store.markGenerated, filled, Except.map, Store.finish, Store.updateWhere,
      finished]
  | failed message => exact ⟨_, rfl⟩

theorem FinalWrite.apply_eq (w : FinalWrite) (store : Store) (now : Instant) (lessonId : Text)
    (filled : ∀ title content, w = .generated title content → content.isEmpty = false) :
    w.apply store now lessonId =
      .ok ⟨store.records.map fun row => if Store.isUnfinished lessonId row then w.finished now row else row⟩ := by
  obtain ⟨changed, performed⟩ := w.perform_operation store now lessonId filled
  rw [apply, performed]
  rfl

@[simp] theorem FinalWrite.finished_lessonId (now : Instant) (row : Store.Record) (w : FinalWrite) :
    (w.finished now row).lessonId = row.lessonId := by
  cases w <;> rfl

theorem FinalWrite.apply_find? {lessonId : Text} (now : Instant) (w : FinalWrite)
    (filled : ∀ title content, w = .generated title content → content.isEmpty = false)
    (stored : s.find? lessonId = some row) (unfinished : row.status = .generating) :
    ∃ s', w.apply s now lessonId = .ok s' ∧ s'.find? lessonId = some (w.finished now row) := by
  have held : Store.isUnfinished lessonId row = true :=
    Store.isUnfinished_iff.mpr ⟨Store.lessonId_of_find? stored, unfinished⟩
  have found := Store.find?_updateWhere (Store.isUnfinished lessonId) (fun row => w.finished now row)
    (fun row => w.finished_lessonId now row) s lessonId
  refine ⟨_, w.apply_eq s now lessonId filled, found.trans ?_⟩
  simp [stored, held]

theorem Ending.ofResult_made {result : Option (Except Failure Lesson)} {code title : Text}
    (made : ofResult result = .made code title) : ∃ lesson, result = some (.ok lesson) ∧ lesson.code = code := by
  rcases result with _ | e | lesson
  · cases made
  · simp only [ofResult] at made
    split at made <;> cases made
  · cases made
    exact ⟨lesson, rfl, rfl⟩

/-- Whatever is replied and whenever time is up, if a lesson that was generating is generated after a run, then its
content is code that was reviewed in this run and has the shape of a component. -/
theorem runLesson_reviewed {σ : Type} (seconds : Rat)
    (responder : Dialogue.Responder Question (Except Failure Answer) σ) (plan : Plan) (state : σ) (r : Request)
    (now : Instant) (s : Store) (row : Store.Record) (stored : s.find? r.lessonId = some row)
    (unfinished : row.status = .generating) :
    ∃ s' row', runLesson seconds responder plan state r now s = .ok s' ∧ s'.find? r.lessonId = some row' ∧
      (row'.status = .generated → ∃ code, row'.content = some code ∧
        IsReviewed plan ((generateLesson plan r).exchanges responder (some seconds) state) code ∧
        (plan.validator = standardValidator → Review.review code = []) ∧ 100 ≤ code.length ∧
        Text.contains "export default function" code = true ∧ Text.contains "return" code = true) := by
  unfold runLesson
  cases written : FinalWrite.ofEnding (wholeSeconds seconds) (makeWithin seconds responder plan state r).1 with
  | failed message =>
    obtain ⟨s', applied, found⟩ := FinalWrite.apply_find? now (.failed message) (by simp) stored unfinished
    exact ⟨s', _, applied, found, fun generated => by cases generated⟩
  | generated title code =>
    obtain ⟨ended, shaped⟩ := FinalWrite.ofEnding_generated written
    obtain ⟨long, exported, returned⟩ := structureFault?_eq_none shaped
    obtain ⟨lesson, result, rfl⟩ := Ending.ofResult_made ended
    have reviewed := generateLesson_reviewed (Dialogue.follow_gives _ result)
    have filled : lesson.code.isEmpty = false := by
      cases code : lesson.code with
      | nil => simp [code, minCodeLength] at long
      | cons => rfl
    obtain ⟨s', applied, found⟩ := FinalWrite.apply_find? now (.generated title lesson.code)
      (by rintro _ _ ⟨⟩; exact filled) stored unfinished
    exact ⟨s', _, applied, found, fun _ =>
      ⟨lesson.code, rfl, reviewed, reviewed.review_eq_nil, long, exported, returned⟩⟩

section Answered

variable {σ β : Type} {responder : Dialogue.Responder Question (Except Failure Answer) σ} {deadline : Option Rat}
  {state state' : σ} {seconds : Rat} {answer : Answer}

/-- A call that is answered in time goes on with the answer. -/
theorem result_call_bind {q : Question} (replied : responder.respond state q = (seconds, .ok answer, state'))
    (inTime : Dialogue.passes deadline seconds = false) (written : Text.isBlank answer.content = false)
    (f : Except Failure Answer → Dialogue Question (Except Failure Answer) β) :
    (((call plan q).bind f).follow responder deadline state).result =
      ((f (.ok answer)).follow responder (deadline.map (· - seconds)) state').result := by
  cases delays : plan.delays <;>
    simp [call, delays, Dialogue.retry, Dialogue.andThen, Dialogue.bind, Dialogue.follow, replied, inTime, written]

theorem result_title_bind {outline : Text} (titled : plan.hasTitler = true)
    (replied : responder.respond state ⟨.titler, titlePrompt outline⟩ = (seconds, .ok answer, state'))
    (inTime : Dialogue.passes deadline seconds = false) (written : Text.isBlank answer.content = false)
    (f : Text → Dialogue Question (Except Failure Answer) β) :
    (((title plan.agents outline).bind f).follow responder deadline state).result =
      ((f (cleanTitle answer.content)).follow responder (deadline.map (· - seconds)) state').result := by
  simp only [title, Plan.agents, titled, if_true, Dialogue.andThen, Dialogue.bind_assoc]
  rw [result_call_bind replied inTime written]
  rfl

section Attempt

variable (plan : Plan) {outline draft : Text} (p : Progress)
  (replied : responder.respond state (p.task outline).question = (seconds, .ok answer, state'))
  (inTime : Dialogue.passes deadline seconds = false) (written : Text.isBlank answer.content = false)
  (cleaned : cleanCode answer.content = draft)
  (f : Progress → Dialogue Question (Except Failure Answer) β) (left : Nat)

include replied inTime written cleaned

/-- After a draft that is rejected the attempts go on with it. -/
theorem result_attempts_of_rejected (rejected : (plan.validator p.seen draft).isValid = false) :
    (((attempts plan.agents plan.validator outline (left + 1) p).bind f).follow responder deadline state).result =
      (((attempts plan.agents plan.validator outline left (p.drafted plan.validator ⟨draft, answer.usage⟩)).bind f).follow
        responder (deadline.map (· - seconds)) state').result := by
  simp only [attempts, Plan.agents, Dialogue.andThen, Dialogue.bind_assoc]
  rw [result_call_bind replied inTime written]
  simp [Dialogue.bind, Progress.advance, Progress.isAccepted, Progress.drafted, cleaned, rejected]

/-- A draft that is accepted ends the attempts. -/
theorem result_attempts_of_accepted (accepted : (plan.validator p.seen draft).isValid = true) :
    (((attempts plan.agents plan.validator outline (left + 1) p).bind f).follow responder deadline state).result =
      ((f (p.drafted plan.validator ⟨draft, answer.usage⟩)).follow responder (deadline.map (· - seconds)) state').result := by
  simp only [attempts, Plan.agents, Dialogue.andThen, Dialogue.bind_assoc]
  rw [result_call_bind replied inTime written]
  simp [Dialogue.bind, Progress.advance, Progress.isAccepted, Progress.drafted, cleaned, accepted]

end Attempt

end Answered

/-- A lesson that keeps all rules. -/
def sampleCode : Text :=
  "\"use client\";\n\nexport default function Lesson() \x7b\n  return (\n    <main>\n      <h1>Light</h1>\n      <p>Plants turn light into sugar.</p>\n    </main>\n  );\n\x7d"

def proseText : Text := "Plants turn light into sugar."

def fencedReply : Text := "```tsx\n" ++ sampleCode ++ "\n```"

/-- A model whose first draft is prose. -/
def sampleResponder : Dialogue.Responder Question (Except Failure Answer) Unit where
  respond _ q :=
    let content : Text :=
      match q.role with
      | .writer => proseText
      | .repairer => fencedReply
      | .titler => "Photosynthesis"
    (1, .ok ⟨content, []⟩, ())

def samplePlan (validator : Validator) : Plan := { provider := "p", validator }

def sampleRow : Store.Record := .start ⟨0⟩ "a" "b" "c"

theorem cleanCode_fencedReply : cleanCode fencedReply = sampleCode := by
  simp only [fencedReply, sampleCode, Text.ofString_eq rfl]
  decide +kernel

theorem isBlank_fencedReply : Text.isBlank fencedReply = false := by
  simp only [fencedReply, sampleCode, Text.ofString_eq rfl]
  decide +kernel

theorem structureFault?_sampleCode : structureFault? sampleCode = none := by
  simp only [sampleCode, Text.ofString_eq rfl]
  decide +kernel

section Sample

variable {validator : Validator} (rejects : (validator 0 proseText).isValid = false) (accepts : (validator 1 sampleCode).isValid = true)
  (again : (validator 2 sampleCode).isValid = true)

include rejects accepts again

theorem generateLesson_sample :
    ((generateLesson (samplePlan validator) ⟨"a", "b", 0⟩).follow sampleResponder (some 60) ()).result =
      some (.ok ⟨sampleCode, "Photosynthesis", 2, []⟩) := by
  let plan := samplePlan validator
  let start : Progress := { attempt := 0 }
  let first := start.drafted validator ⟨proseText, []⟩
  let second := first.drafted validator ⟨sampleCode, []⟩
  -- What is replied to each of the three questions, one second after the other.
  have written : sampleResponder.respond () (start.task "b").question = (1, .ok ⟨proseText, []⟩, ()) := rfl
  have repaired : sampleResponder.respond () (first.task "b").question = (1, .ok ⟨fencedReply, []⟩, ()) := rfl
  have named : sampleResponder.respond () ⟨.titler, titlePrompt "b"⟩ = (1, .ok ⟨"Photosynthesis", []⟩, ()) := rfl
  have inTime : ∀ left ∈ [60, 60 - 1, 60 - 1 - 1], Dialogue.passes (some left) 1 = false := by decide +kernel
  simp only [List.forall_mem_cons] at inTime
  have clean : cleanCode proseText = proseText := by decide +kernel
  have once := result_attempts_of_rejected plan start written inTime.1 (by decide +kernel) clean
    (conclude plan.agents validator "b") 2 rejects
  have twice := result_attempts_of_accepted plan first repaired inTime.2.1 isBlank_fencedReply cleanCode_fencedReply
    (conclude plan.agents validator "b") 1 accepts
  have concluded : conclude plan.agents validator "b" second =
      (title plan.agents "b").bind fun t => .done (.ok ⟨sampleCode, t, 2, []⟩) := by
    simp [conclude, second, first, start, Progress.drafted, accepts, again]
  have titled : cleanTitle "Photosynthesis" = "Photosynthesis" := by decide +kernel
  have ended : ((conclude plan.agents validator "b" second).follow sampleResponder (some (60 - 1 - 1)) ()).result =
      some (.ok ⟨sampleCode, "Photosynthesis", 2, []⟩) := by
    rw [concluded, result_title_bind rfl named inTime.2.2.1 (by decide +kernel), titled]
    rfl
  exact once.trans (twice.trans ended)

theorem runLesson_sample :
    runLesson 60 sampleResponder (samplePlan validator) () ⟨"a", "b", 0⟩ ⟨1⟩ ⟨[sampleRow]⟩ =
      .ok ⟨[sampleRow.succeed ⟨1⟩ "Photosynthesis" sampleCode]⟩ := by
  have held : Store.isUnfinished "a" sampleRow = true := by decide
  have filled : ∀ title content, FinalWrite.generated "Photosynthesis" sampleCode = .generated title content →
      content.isEmpty = false := by
    rintro _ _ ⟨⟩
    simp only [sampleCode, Text.ofString_eq rfl]
    decide +kernel
  rw [runLesson, makeWithin]
  dsimp only
  rw [generateLesson_sample rejects accepts again, Ending.ofResult, FinalWrite.ofEnding, structureFault?_sampleCode]
  rw [FinalWrite.apply_eq _ _ _ _ filled]
  simp only [List.map_singleton, held, if_true, FinalWrite.finished]

end Sample

/-- The validator that applies the rules about the text of a source, every time. -/
def textValidator : Validator := fun _ t => .ofViolations (Review.reviewBy Review.textRules t)

theorem isValid_iff {violations : List Text} : (Verdict.ofViolations violations).isValid = true ↔ violations = [] :=
  List.isEmpty_iff

theorem isValid_eq_false_iff {violations : List Text} :
    (Verdict.ofViolations violations).isValid = false ↔ violations ≠ [] :=
  List.isEmpty_eq_false_iff

theorem sample_find? (row : Store.Record) (named : row.lessonId = "a") : Store.find? ⟨[row]⟩ "a" = some row := by
  simp [Store.find?, named]

/-- The lesson is generated with the code of the repair. -/
def IsSampleMade (validator : Validator) : Prop :=
  ∃ s' row', runLesson 60 sampleResponder (samplePlan validator) () ⟨"a", "b", 0⟩ ⟨1⟩ ⟨[sampleRow]⟩ = .ok s' ∧
    s'.find? "a" = some row' ∧ row'.status = .generated ∧ row'.content = some sampleCode ∧
    IsReviewed (samplePlan validator)
      ((generateLesson (samplePlan validator) ⟨"a", "b", 0⟩).exchanges sampleResponder (some 60) ()) sampleCode ∧
    (validator = standardValidator → Review.review sampleCode = [])

/-- A run with a rejected draft, its repair and a title. The standard validator accepts the repair if it parses. -/
theorem runLesson_reviewed_repaired :
    IsSampleMade textValidator ∧ (Review.IsClean (Tsx.parse sampleCode).root → IsSampleMade standardValidator) := by
  have made {validator : Validator} (rejects : (validator 0 proseText).isValid = false)
      (accepts : (validator 1 sampleCode).isValid = true) (again : (validator 2 sampleCode).isValid = true) :
      IsSampleMade validator := by
    obtain ⟨s', row', ran, found, reviewed⟩ := runLesson_reviewed 60 sampleResponder (samplePlan validator) ()
      ⟨"a", "b", 0⟩ ⟨1⟩ ⟨[sampleRow]⟩ sampleRow (by decide) (by decide)
    have made := runLesson_sample rejects accepts again
    obtain rfl := Except.ok.inj (ran.symm.trans made)
    have stored := sample_find? (sampleRow.succeed ⟨1⟩ "Photosynthesis" sampleCode) rfl
    obtain rfl := Option.some.inj (stored.symm.trans found)
    obtain ⟨code, same, source, standard, -⟩ := reviewed rfl
    obtain rfl : sampleCode = code := Option.some.inj same
    exact ⟨_, _, made, stored, rfl, rfl, source, standard⟩
  have prose : Review.reviewBy Review.textRules proseText ≠ [] := by decide +kernel
  have kept : Review.reviewBy Review.textRules sampleCode = [] := by
    simp only [sampleCode, Text.ofString_eq rfl]
    decide +kernel
  have unnamed : ∀ name ∈ Review.collectionNames, ¬name <:+: proseText := by decide +kernel
  have unnamed' : ∀ name ∈ Review.collectionNames, ¬name <:+: sampleCode := by
    simp only [sampleCode, Text.ofString_eq rfl]
    decide +kernel
  constructor
  · exact made (isValid_eq_false_iff.mpr prose) (isValid_iff.mpr kept) (isValid_iff.mpr kept)
  · intro clean
    have accepted : Review.review sampleCode = [] := (Review.review_eq_nil_iff unnamed').mpr ⟨kept, clean⟩
    have rejected : Review.review proseText ≠ [] := fun none_ => prose ((Review.review_eq_nil_iff unnamed).mp none_).1
    have accepts (seen : Nat) : (standardValidator seen sampleCode).isValid = true := isValid_iff.mpr accepted
    have rejects : (standardValidator 0 proseText).isValid = false := isValid_eq_false_iff.mpr rejected
    exact made rejects (accepts 1) (accepts 2)

end LessonService.Generation
