import LessonService.Proofs.Store.Duplicates
import LessonService.Proofs.Web.LessonRequests
import Mathlib.Algebra.Order.Group.Abs
import Mathlib.Algebra.Order.Ring.Int
import Mathlib.Logic.Function.Basic

namespace LessonService.Web

open Handler Store

variable {σ : Type} {s s' : Service σ} {now later : Instant} {outline : Text}

/-- A request that has looked for a lesson with its outline and has found none. -/
structure Waiting where
  outline : Text
  lookedAt : Instant
  /-- How many lessons had been asked for when it looked. -/
  seen : Nat
deriving DecidableEq

/-- What is known of the request for a lesson: how many lessons had been asked for when it looked, and
the number of its own one. -/
structure Origin where
  seen : Nat
  number : Nat

/-- A service with the requests that have looked and not stored anything yet. -/
structure Traffic (σ : Type) where
  service : Service σ
  waiting : List Waiting := []
  origin : Text → Origin

/-- One turn at the store, at some time. -/
inductive Turn (now : Instant) (t : Traffic σ) : Traffic σ → Prop
  | look {outline : Text} {s : Service σ} (free : (refuseDuplicate now outline).Runs t.service (.ok ()) s) :
    Turn now t { t with service := s, waiting := ⟨outline, now, t.service.lessonsAsked⟩ :: t.waiting }
  | store {w : Waiting} {row : Record} {s : Service σ} (waits : w ∈ t.waiting)
    (stored : (createLesson now w.outline).Runs t.service (.ok row) s) :
    Turn now t {
      service := s, waiting := t.waiting.erase w
      origin := Function.update t.origin row.lessonId ⟨w.seen, s.lessonsAsked⟩ }
  | fail {w : Waiting} {p : Problem} {s : Service σ} (waits : w ∈ t.waiting)
    (failed : (createLesson now w.outline).Runs t.service (.error p) s) :
    Turn now t { t with service := s, waiting := t.waiting.erase w }
  /-- Whatever else is done to the store, which adds no lesson: lessons are finished, swept up and looked at. -/
  | other (o : Operation) {s : Service σ} (adds : o.added? now t.service.store = none)
    (store : s.store = o.after now t.service.store) (settings : s.settings = t.service.settings)
    (asked : s.lessonsAsked = t.service.lessonsAsked) :
    Turn now t { t with service := s }

/-- What comes of turns by a clock that does not go back, from a service without lessons. -/
inductive Reaches (s : Service σ) : Instant → Traffic σ → Prop
  | start (now : Instant) (origin : Text → Origin) (empty : s.store.records = []) : Reaches s now ⟨s, [], origin⟩
  | turn {now later : Instant} {t t' : Traffic σ} (reached : Reaches s now t) (clock : now.micros ≤ later.micros)
    (turn : Turn later t t') : Reaches s later t'

/-- What turns keep: of lessons with one outline, those whose number a request has seen are older than the time in
which it looks for them, in microseconds. -/
structure IsOrderly (span : Int) (now : Instant) (store : Store) (asked : Nat) (waiting : List Waiting)
    (origin : Text → Origin) : Prop where
  numbered : ∀ r ∈ store.live, (origin r.lessonId).seen < (origin r.lessonId).number ∧
    (origin r.lessonId).number ≤ asked
  early : ∀ w ∈ waiting, w.seen ≤ asked ∧ w.lookedAt.micros ≤ now.micros
  unfound : ∀ w ∈ waiting, ∀ r ∈ store.live, r.outline = w.outline → (origin r.lessonId).number ≤ w.seen →
    r.createdAt.micros + span < w.lookedAt.micros
  apart : ∀ r ∈ store.live, ∀ r' ∈ store.live, r.outline = r'.outline →
    (origin r.lessonId).number ≤ (origin r'.lessonId).seen → r.createdAt.micros + span < r'.createdAt.micros

theorem minusSeconds_micros {seconds : Int} {since : Instant} (counted : now.minusSeconds seconds = .ok since) :
    since.micros = now.micros - seconds * 1000000 := by
  unfold Instant.minusSeconds at counted
  dsimp only at counted
  split_ifs at counted
  cases counted
  rfl

section

variable {span : Int} {store : Store} {asked : Nat} {waiting : List Waiting} {origin : Text → Origin} {w : Waiting}

theorem IsOrderly.atLater (orderly : IsOrderly span now store asked waiting origin)
    (clock : now.micros ≤ later.micros) :
    IsOrderly span later store asked waiting origin :=
  { orderly with early := fun w waits => ⟨(orderly.early w waits).1, Int.le_trans (orderly.early w waits).2 clock⟩ }

theorem IsOrderly.look (orderly : IsOrderly span now store asked waiting origin) (outline : Text)
    (unfound : ∀ r ∈ store.live, r.outline = outline → r.createdAt.micros + span < now.micros) :
    IsOrderly span now store asked (⟨outline, now, asked⟩ :: waiting) origin where
  numbered := orderly.numbered
  early := List.forall_mem_cons.mpr ⟨⟨Nat.le_refl _, Int.le_refl _⟩, orderly.early⟩
  unfound := List.forall_mem_cons.mpr ⟨fun r member same _ => unfound r member same, orderly.unfound⟩
  apart := orderly.apart

theorem IsOrderly.drop (orderly : IsOrderly span now store asked waiting origin) (w : Waiting) :
    IsOrderly span now store (asked + 1) (waiting.erase w) origin where
  numbered r member := ⟨(orderly.numbered r member).1, Nat.le_succ_of_le (orderly.numbered r member).2⟩
  early w' still := by
    obtain ⟨seen, looked⟩ := orderly.early w' (List.mem_of_mem_erase still)
    exact ⟨Nat.le_succ_of_le seen, looked⟩
  unfound w' still := orderly.unfound w' (List.mem_of_mem_erase still)
  apart := orderly.apart

/-- A lesson that is stored has the last number, so nobody has seen it yet; and its own request has looked for all
those that were asked for before. -/
theorem IsOrderly.add {lessonId title : Text} {origin' : Text → Origin}
    (orderly : IsOrderly span now store asked waiting origin) (waits : w ∈ waiting)
    (kept : ∀ r ∈ store.live, origin' r.lessonId = origin r.lessonId) (own : origin' lessonId = ⟨w.seen, asked + 1⟩) :
    IsOrderly span now ⟨store.records ++ [Record.start now lessonId w.outline title]⟩ (asked + 1) (waiting.erase w)
      origin' := by
  obtain ⟨seen, looked⟩ := orderly.early w waits
  refine ⟨fun r member => ?_, (orderly.drop w).early, fun w' still r member same number => ?_,
    fun r member r' member' same number => ?_⟩
  · rcases mem_live_add.mp member with old | rfl
    · rw [kept r old]
      exact (orderly.drop w).numbered r old
    · simp only [Record.start, own]
      exact ⟨Nat.lt_succ_of_le seen, Nat.le_refl _⟩
  · rcases mem_live_add.mp member with old | rfl
    · rw [kept r old] at number
      exact (orderly.drop w).unfound w' still r old same number
    · simp only [Record.start, own] at number
      have seen' := (orderly.early w' (List.mem_of_mem_erase still)).1
      omega
  · rcases mem_live_add.mp member with old | rfl <;> rcases mem_live_add.mp member' with old' | rfl
    · rw [kept r old, kept r' old'] at number
      exact orderly.apart r old r' old' same number
    · simp only [Record.start, kept r old, own] at number
      exact Int.lt_of_lt_of_le (orderly.unfound w waits r old same number) looked
    · have numbered := orderly.numbered r' old'
      simp only [Record.start, kept r' old', own] at number
      omega
    · simp only [Record.start, own] at number
      omega

theorem IsOrderly.afterOther {o : Operation} (orderly : IsOrderly span now store asked waiting origin)
    (adds : o.added? now store = none) : IsOrderly span now (o.after now store) asked waiting origin := by
  have before : ∀ r' ∈ (o.after now store).live, _ := fun r' => Operation.exists_live_before adds
  refine ⟨fun r' member => ?_, orderly.early, fun w waits r' member => ?_, fun r' member q' member' => ?_⟩
  · obtain ⟨r, old, lessonId, -, -⟩ := before r' member
    exact lessonId ▸ orderly.numbered r old
  · obtain ⟨r, old, lessonId, outline, createdAt⟩ := before r' member
    rw [← lessonId, ← outline, ← createdAt]
    exact orderly.unfound w waits r old
  · obtain ⟨r, old, lessonId, outline, createdAt⟩ := before r' member
    obtain ⟨q, older, lessonId', outline', createdAt'⟩ := before q' member'
    rw [← lessonId, ← outline, ← createdAt, ← lessonId', ← outline', ← createdAt']
    exact orderly.apart r old q older

end

/-- How far apart lessons with one outline are to be, in microseconds. -/
def duplicateSpan (s : Service σ) : Int := s.settings.duplicateWindow * 1000000

/-- The same for all the parts of a service with its requests. -/
def Traffic.IsOrderly (now : Instant) (t : Traffic σ) : Prop :=
  Web.IsOrderly (duplicateSpan t.service) now t.service.store t.service.lessonsAsked t.waiting t.origin

theorem Turn.keeps {t t' : Traffic σ} (turn : Turn now t t') (orderly : t.IsOrderly now) :
    t'.service.settings = t.service.settings ∧ t'.IsOrderly now := by
  cases turn with
  | @look outline s free =>
    obtain ⟨⟨since, counted, unfound⟩, rfl⟩ := refuseDuplicate_ok free
    refine ⟨rfl, orderly.look outline fun r member same => ?_⟩
    have early := Store.findDuplicate?_eq_none_iff.mp unfound r member same
    have limit := minusSeconds_micros counted
    unfold duplicateSpan
    omega
  | @store w row s waits stored =>
    obtain ⟨⟨⟩, -⟩ | ⟨free, ⟨⟩, rfl⟩ := createLesson_runs stored
    refine ⟨rfl, orderly.add waits (fun r member => Function.update_of_ne (fun same => ?_) ..) (Function.update_self ..)⟩
    exact find?_eq_none_iff.mp free (List.mem_map.mpr ⟨r, (mem_live.mp member).1, same⟩)
  | @fail w p s waits failed =>
    obtain ⟨-, rfl⟩ | ⟨-, ⟨⟩, -⟩ := createLesson_runs failed
    exact ⟨rfl, orderly.drop w⟩
  | other o adds store settings asked =>
    refine ⟨settings, ?_⟩
    unfold Traffic.IsOrderly duplicateSpan
    dsimp only
    rw [settings, asked, store]
    exact orderly.afterOther adds

theorem Reaches.isOrderly {t : Traffic σ} (reached : Reaches s now t) :
    t.service.settings = s.settings ∧ t.IsOrderly now := by
  induction reached with
  | start now origin empty =>
    have none_ (r : Record) : r ∉ s.store.live := by simp [live, empty]
    have nobody (w : Waiting) : w ∉ ([] : List Waiting) := List.not_mem_nil
    exact ⟨rfl, fun r member => absurd member (none_ r), fun w waits => absurd waits (nobody w),
      fun w waits => absurd waits (nobody w), fun r member => absurd member (none_ r)⟩
  | turn reached clock turn ih =>
    obtain ⟨settings, orderly⟩ := ih
    obtain ⟨same, kept⟩ := turn.keeps (orderly.atLater clock)
    exact ⟨same.trans settings, kept⟩

/-- However requests for lessons and the work on them take turns: if two lessons have the same outline, if neither has
failed and if they were created within the time in which duplicates are looked for, then each was numbered only after
the request for the other one had looked. -/
theorem overlapping_of_duplicate {t : Traffic σ} (reached : Reaches s now t) (r r' : Record)
    (stored : r ∈ t.service.store.records) (stored' : r' ∈ t.service.store.records) (same : r.outline = r'.outline)
    (unfailed : r.status ≠ .failed) (unfailed' : r'.status ≠ .failed)
    (close : |r.createdAt.micros - r'.createdAt.micros| ≤ s.settings.duplicateWindow * 1000000) :
    (t.origin r'.lessonId).seen < (t.origin r.lessonId).number ∧
      (t.origin r.lessonId).seen < (t.origin r'.lessonId).number := by
  obtain ⟨settings, orderly⟩ := reached.isOrderly
  have member := mem_live.mpr ⟨stored, unfailed⟩
  have member' := mem_live.mpr ⟨stored', unfailed'⟩
  obtain ⟨low, high⟩ := abs_le.mp close
  constructor
  · by_contra seen
    have apart := orderly.apart r member r' member' same (Nat.le_of_not_lt seen)
    rw [duplicateSpan, settings] at apart
    omega
  · by_contra seen
    have apart := orderly.apart r' member' r member same.symm (Nat.le_of_not_lt seen)
    rw [duplicateSpan, settings] at apart
    omega

theorem refuseDuplicate_of_isNew (isNew : IsNew s now outline) : (refuseDuplicate now outline).Runs s (.ok ()) s := by
  obtain ⟨since, counted, unfound⟩ := isNew
  unfold refuseDuplicate
  rw [get_bind_runs, counted]
  refine bind_runs.mpr (.inr ⟨since, s, rfl, ?_⟩)
  rw [unfound]
  rfl

/-- A request for a lesson that is answered in one go takes its turns without others between them. -/
theorem generate_turns {r : Request} {reply : Reply} {t : Traffic σ}
    (identity : ∀ n, (t.service.draws.lessonId n).IsEncodable)
    (ran : (generate now r).Runs t.service (.ok reply) s') :
    ∃ t₁ t₂ t₃, Turn now t t₁ ∧ Turn now t₁ t₂ ∧ Turn now t₂ t₃ ∧ t₃.service = s' ∧ t₃.waiting = t.waiting := by
  rw [generate_eq] at ran
  obtain ⟨⟨headers, outline⟩, s₁, passed, ran⟩ := ran.bind_ok
  obtain ⟨quota, rfl⟩ := (isCheck_checked now r).counts passed
  obtain ⟨sent, rfl, taken⟩ := checked_ok passed
  obtain ⟨⟨⟩, -⟩ | ⟨free, rfl, -⟩ := answerNew_runs (s := { t.service with generationQuota := quota }) identity
    (isEncodable_of_admitted taken.admitted) ran
  have counting : Turn now t { t with service := { t.service with generationQuota := quota } } :=
    .other .stats rfl rfl rfl rfl
  have looking := Turn.look (t := { t with service := { t.service with generationQuota := quota } })
    (refuseDuplicate_of_isNew (s := { t.service with generationQuota := quota }) taken.isNew)
  refine ⟨_, _, _, counting, looking, .store List.mem_cons_self (createLesson_of_free now _ free), rfl, ?_⟩
  exact List.erase_cons_head ..

/-- Settings that are accepted when nothing but the origins is chosen. -/
theorem exists_settings : ∃ settings,
    Environment.settings [("LESSONFORGE_ALLOWED_ORIGINS", "http://localhost:3000")] = .ok settings ∧
      settings.duplicateWindow = 300 := by
  have read : (Environment.settings [("LESSONFORGE_ALLOWED_ORIGINS", "http://localhost:3000")]).map
      Settings.duplicateWindow = .ok 300 := by decide +kernel
  cases accepted : Environment.settings [("LESSONFORGE_ALLOWED_ORIGINS", "http://localhost:3000")] with
  | error e =>
    rw [accepted] at read
    cases read
  | ok settings =>
    rw [accepted] at read
    exact ⟨settings, rfl, Except.ok.inj read⟩

/-- Two requests with one outline that both look before either stores its lesson. -/
theorem exists_race {since : Instant} (empty : s.store.records = [])
    (counted : now.minusSeconds s.settings.duplicateWindow = .ok since)
    (distinct : s.draws.lessonId (s.lessonsAsked + 1) ≠ s.draws.lessonId (s.lessonsAsked + 2)) (outline : Text) :
    ∃ t r r', Reaches s now t ∧ t.service.store.records = [r, r'] ∧ r ≠ r' ∧ r.outline = outline ∧ r'.outline = outline ∧
      r.status = .generating ∧ r'.status = .generating ∧ r.createdAt = now ∧ r'.createdAt = now := by
  have unfound : s.store.findDuplicate? outline since = none := by simp [findDuplicate?, empty]
  have free := refuseDuplicate_of_isNew ⟨since, counted, unfound⟩
  let w : Waiting := ⟨outline, now, s.lessonsAsked⟩
  have looked : Reaches s now ⟨s, [w], fun _ => ⟨0, 0⟩⟩ := (Reaches.start now _ empty).turn (Int.le_refl _) (.look free)
  have bothLooked : Reaches s now ⟨s, [w, w], fun _ => ⟨0, 0⟩⟩ := looked.turn (Int.le_refl _) (.look free)
  -- Each lesson finds its identity free.
  have first : s.store.find? (s.draws.lessonId (s.lessonsAsked + 1)) = none := by simp [find?, empty]
  have stored := createLesson_of_free now outline first
  let r := Record.start now (s.draws.lessonId (s.lessonsAsked + 1)) outline interimTitle
  let r' := Record.start now (s.draws.lessonId (s.lessonsAsked + 2)) outline interimTitle
  have second : find? ⟨s.store.records ++ [r]⟩ (s.draws.lessonId (s.lessonsAsked + 2)) = none := by
    have other : r.lessonId ≠ s.draws.lessonId (s.lessonsAsked + 2) := distinct
    simp [find?, empty, other]
  have storedToo := createLesson_of_free (s := { s with
    lessonsAsked := s.lessonsAsked + 1, store := ⟨s.store.records ++ [r]⟩ }) now outline second
  have oneStored := bothLooked.turn (Int.le_refl _) (.store List.mem_cons_self stored)
  refine ⟨_, r, r', oneStored.turn (Int.le_refl _) (.store (w := w) ?_ storedToo), ?_, ?_, rfl, rfl, rfl, rfl, rfl, rfl⟩
  · simp
  · simp [empty, r, r']
  · exact fun same => distinct (congrArg Record.lessonId same)

/-- The same in a service that has just started. -/
theorem exists_race_started {settings : Settings} (window : settings.duplicateWindow = 300) (outline : Text) :
    let s : Service Unit := .start settings ⟨Text.ofNat, Text.ofNat, [], fun _ => 1⟩ none ()
    ∃ t r r', Reaches s ⟨1704067200000000⟩ t ∧ t.service.store.records = [r, r'] ∧ r ≠ r' ∧ r.outline = outline ∧
      r'.outline = outline ∧ r.status = .generating ∧ r'.status = .generating ∧
      |r.createdAt.micros - r'.createdAt.micros| ≤ settings.duplicateWindow * 1000000 := by
  intro s
  have counted : Instant.minusSeconds ⟨1704067200000000⟩ settings.duplicateWindow = .ok ⟨1704066900000000⟩ := by
    rw [window]
    decide
  have distinct : s.draws.lessonId (s.lessonsAsked + 1) ≠ s.draws.lessonId (s.lessonsAsked + 2) := by
    rw [show s.lessonsAsked = 0 from rfl, show s.draws.lessonId = Text.ofNat from rfl]
    decide
  obtain ⟨t, r, r', reached, records, different, outline, outline', status, status', createdAt, createdAt'⟩ :=
    exists_race (s := s) rfl counted distinct outline
  refine ⟨t, r, r', reached, records, different, outline, outline', status, status', ?_⟩
  rw [createdAt, createdAt', window]
  decide

/-- Two requests that both look before either stores its lesson, and their lessons from one moment. -/
theorem two_lessons_of_race :
    ∃ settings, Environment.settings [("LESSONFORGE_ALLOWED_ORIGINS", "http://localhost:3000")] = .ok settings ∧
      let s : Service Unit := .start settings ⟨Text.ofNat, Text.ofNat, [], fun _ => 1⟩ none ()
      ∃ t r r', Reaches s ⟨1704067200000000⟩ t ∧ t.service.store.records = [r, r'] ∧ r ≠ r' ∧
        r.outline = ("Explain photosynthesis" : Text) ∧ r'.outline = r.outline ∧ r.status = .generating ∧
        r'.status = .generating ∧ |r.createdAt.micros - r'.createdAt.micros| ≤ settings.duplicateWindow * 1000000 := by
  obtain ⟨settings, accepted, window⟩ := exists_settings
  obtain ⟨t, r, r', reached, records, different, outline, outline', status, status', close⟩ :=
    exists_race_started window "Explain photosynthesis"
  exact ⟨settings, accepted, t, r, r', reached, records, different, outline, outline'.trans outline.symm, status, status',
    close⟩

/-- The two lessons of a race, each numbered after the request for the other one had looked. -/
theorem overlapping_of_duplicate_race :
    ∃ (s : Service Unit) (now : Instant) (t : Traffic Unit) (r r' : Record),
      Reaches s now t ∧ t.service.store.records = [r, r'] ∧ r ≠ r' ∧ r.outline = r'.outline ∧ r.status ≠ .failed ∧
        r'.status ≠ .failed ∧ |r.createdAt.micros - r'.createdAt.micros| ≤ s.settings.duplicateWindow * 1000000 ∧
        (t.origin r'.lessonId).seen < (t.origin r.lessonId).number ∧
        (t.origin r.lessonId).seen < (t.origin r'.lessonId).number := by
  obtain ⟨settings, -, window⟩ := exists_settings
  obtain ⟨t, r, r', reached, records, different, outline, outline', status, status', close⟩ :=
    exists_race_started window "Explain photosynthesis"
  have same : r.outline = r'.outline := outline.trans outline'.symm
  have unfailed : r.status ≠ .failed := by simp [status]
  have unfailed' : r'.status ≠ .failed := by simp [status']
  exact ⟨_, _, t, r, r', reached, records, different, same, unfailed, unfailed', close,
    overlapping_of_duplicate reached r r' (by simp [records]) (by simp [records]) same unfailed unfailed' close⟩

end LessonService.Web
