import LessonService.Proofs.Maintenance.Cutoffs
import LessonService.Proofs.Store.Constraints
import LessonService.Proofs.Store.Lookup
import Mathlib.Data.Nat.Digits.Defs

namespace LessonService.Maintenance

open Store

variable {settings : Settings} {now clock : Instant} {c : Cutoffs} {s after : Store} {r : Record} {report : Report}
  {timeout : Int}

/-- What is said of a lesson that was not made in time. -/
def lateMessage (settings : Settings) : Text := (PipelineError.timeoutExceeded settings.generationTimeout).message

theorem length_ofInt_le {n : Int} (positive : 0 ≤ n) (small : n < 10 ^ 10) : (Text.ofInt n).length ≤ 10 := by
  obtain ⟨m, rfl⟩ := Int.eq_ofNat_of_zero_le positive
  have digits := Nat.repr_length m 10 (by decide) (by exact_mod_cast small)
  rw [← String.length_toList] at digits
  rw [Text.ofInt, Text.ofString, List.length_map]
  exact digits

theorem lateMessage_isTrimmed (settings : Settings) : (lateMessage settings).IsTrimmed where
  first c head := by
    have start : (Text.ofString "Generation timeout after ").head? = some ('G' : CodePoint) := by decide
    rw [lateMessage, PipelineError.message, List.append_assoc, List.head?_append, start] at head
    cases Option.some.inj head
    decide
  last c last := by
    have stop : (Text.ofString " minutes").getLast? = some ('s' : CodePoint) := by decide
    rw [lateMessage, PipelineError.message, List.getLast?_append, stop] at last
    cases Option.some.inj last
    decide

theorem capMessage_of_isTrimmed {t : Text} (trimmed : t.IsTrimmed) (filled : t ≠ [])
    (short : t.length ≤ maxMessageLength) : capMessage t = t := by
  have nonempty : t.isEmpty = false := by simpa using filled
  simp [capMessage, trimmed.trim_eq, nonempty, short]

theorem capMessage_lateMessage (within : now.micros < (Instant.ofYear 10000).micros) (reaches : Reaches settings now) :
    capMessage (lateMessage settings) = lateMessage settings := by
  have start : Instant.first.micros = -62135596800000000 := by decide
  have stop : (Instant.ofYear 10000).micros = 253402300800000000 := by decide
  have far := Instant.le_past_iff.mp reaches.timeout
  have minutes : settings.generationTimeout.fdiv 60 = settings.generationTimeout / 60 :=
    Int.fdiv_eq_ediv_of_nonneg _ (by decide)
  have digits : (Text.ofInt (max 1 (settings.generationTimeout.fdiv 60))).length ≤ 10 :=
    length_ofInt_le (by omega) (by omega)
  have around : (Text.ofString "Generation timeout after ").length = 25 ∧ (Text.ofString " minutes").length = 8 := by
    decide
  have room : maxMessageLength = 4000 := rfl
  have length : (lateMessage settings).length =
      25 + (Text.ofInt (max 1 (settings.generationTimeout.fdiv 60))).length + 8 := by
    rw [lateMessage, PipelineError.message, List.length_append, List.length_append, around.1, around.2]
  refine capMessage_of_isTrimmed (lateMessage_isTrimmed settings) ?_ (by omega)
  exact List.ne_nil_of_length_pos (by omega)

/-- What a sweep makes of a record. -/
def swept (c : Cutoffs) (clock : Instant) (message : Text) (r : Record) : Option Record :=
  if isStuck c.stuck r then some (r.abandon clock message) else if isExpired c.failed r then none else some r

theorem isExpired_eq_false_of_isStuck {olderThan olderThan' : Instant} (stuck : isStuck olderThan r = true) :
    isExpired olderThan' r = false := by
  rw [isStuck_iff] at stuck
  simp [isExpired, stuck.1]

/-- A lesson that a sweep has failed is not old. -/
theorem isExpired_abandon (notLater : c.failed.micros ≤ clock.micros) (message : Text) :
    isExpired c.failed (r.abandon clock message) = false := by
  rw [Bool.eq_false_iff, ne_eq, isExpired_iff]
  exact fun old => Int.not_lt.mpr notLater old.2

theorem sweepAt_afterAll (timeout : Int) (c : Cutoffs) (clock : Instant) (s : Store) :
    (sweepAt timeout c clock s).2 = s.afterAll
      [(clock, .failStuck c.stuck (PipelineError.timeoutExceeded timeout).message), (clock, .deleteFailed c.failed)] := rfl

theorem sweepAt_records (notLater : c.failed.micros ≤ clock.micros) :
    (sweepAt timeout c clock s).2.records =
      s.records.filterMap (swept c clock (PipelineError.timeoutExceeded timeout).message) := by
  rw [sweepAt_afterAll, afterAll_cons, afterAll_cons, afterAll_nil, Operation.after_records, Operation.after_records]
  simp only [Operation.added?, Option.toList_none, List.append_nil, List.filterMap_filterMap]
  refine List.filterMap_congr fun r _ => ?_
  cases stuck : isStuck c.stuck r with
  | true => simp [Operation.revise, swept, stuck, isExpired_abandon notLater]
  | false => simp [Operation.revise, swept, stuck]

theorem sweepAt_report (notLater : c.failed.micros ≤ clock.micros) :
    (sweepAt timeout c clock s).1 = ⟨s.records.countP (isStuck c.stuck), s.records.countP (isExpired c.failed)⟩ := by
  have removed : ((s.failStuck clock c.stuck (PipelineError.timeoutExceeded timeout).message).2.records).countP
      (isExpired c.failed) = s.records.countP (isExpired c.failed) := by
    rw [failStuck, updateWhere, List.countP_map]
    refine List.countP_congr fun r _ => ?_
    cases stuck : isStuck c.stuck r with
    | true => simp [stuck, isExpired_abandon notLater, isExpired_eq_false_of_isStuck stuck]
    | false => simp [stuck]
  exact congrArg _ removed

/-- Whether a lesson has been generating for longer than one may take. -/
def IsLate (settings : Settings) (now : Instant) (r : Record) : Prop :=
  r.status = .generating ∧ r.createdAt.micros < now.micros - settings.generationTimeout * 1000000

/-- Whether a lesson failed longer ago than failed ones are kept. -/
def IsOld (settings : Settings) (now : Instant) (r : Record) : Prop :=
  r.status = .failed ∧ r.updatedAt.micros < now.micros - settings.retentionDays * 86400 * 1000000

/-- What a sweep at some time has made of a store, and what it has reported of it. -/
structure Leaves (settings : Settings) (now : Instant) (before : Store) (report : Report) (after : Store) : Prop where
  noneLate : ∀ r ∈ after.records, ¬IsLate settings now r
  noneOld : ∀ r ∈ after.records, ¬IsOld settings now r
  /-- All other lessons are as they were: those that are generated, the young ones and those that failed lately. -/
  kept : ∀ r ∈ before.records, ¬IsLate settings now r → ¬IsOld settings now r → after.find? r.lessonId = some r
  failed : ∀ r ∈ before.records, IsLate settings now r → after.find? r.lessonId =
    some { r with status := .failed, message := some (lateMessage settings), updatedAt := now }
  removed : ∀ r ∈ before.records, IsOld settings now r → after.find? r.lessonId = none
  noneAdded : ∀ r ∈ after.records, ∃ r' ∈ before.records, r'.lessonId = r.lessonId
  countsFailed : report.stuckFailed = before.records.countP fun r =>
    r.status = .generating ∧ (after.find? r.lessonId).map Record.status = some .failed
  countsRemoved : report.failedDeleted = before.records.countP fun r => after.find? r.lessonId = none

theorem find?_sweepAt (unique : s.HasUniqueIds) (notLater : c.failed.micros ≤ clock.micros) (lessonId : Text) :
    (sweepAt timeout c clock s).2.find? lessonId =
      (s.find? lessonId).bind (swept c clock (PipelineError.timeoutExceeded timeout).message) := by
  rw [sweepAt_afterAll, afterAll_cons, afterAll_cons, afterAll_nil, (unique.after _ _).find?_after, unique.find?_after]
  cases found : s.find? lessonId with
  | none => simp [Operation.added?]
  | some r =>
    cases stuck : isStuck c.stuck r with
    | true => simp [Operation.revise, swept, stuck, isExpired_abandon notLater]
    | false => simp [Operation.revise, swept, stuck]

theorem isStuck_iff_isLate :
    isStuck (intended settings now).stuck r = true ↔ IsLate settings now r := isStuck_iff

theorem isExpired_iff_isOld :
    isExpired (intended settings now).failed r = true ↔ IsOld settings now r := isExpired_iff

theorem swept_cases (c : Cutoffs) (clock : Instant) (message : Text) (r : Record) :
    (isStuck c.stuck r = true ∧ swept c clock message r = some (r.abandon clock message)) ∨
    (isExpired c.failed r = true ∧ swept c clock message r = none) ∨
    (isStuck c.stuck r = false ∧ isExpired c.failed r = false ∧ swept c clock message r = some r) := by
  cases stuck : isStuck c.stuck r with
  | true => exact .inl ⟨rfl, by simp [swept, stuck]⟩
  | false =>
    cases old : isExpired c.failed r with
    | true => exact .inr (.inl ⟨rfl, by simp [swept, stuck, old]⟩)
    | false => exact .inr (.inr ⟨rfl, rfl, by simp [swept, stuck, old]⟩)

/-- Whatever a sweep leaves is neither late nor old. -/
theorem settled_of_swept (notLater : c.failed.micros ≤ clock.micros) {message : Text} {r' : Record}
    (left : swept c clock message r = some r') : isStuck c.stuck r' = false ∧ isExpired c.failed r' = false := by
  obtain ⟨-, same⟩ | ⟨-, same⟩ | ⟨young, recent, same⟩ := swept_cases c clock message r
  · cases Option.some.inj (left.symm.trans same)
    exact ⟨by simp [isStuck], isExpired_abandon notLater message⟩
  · cases left.symm.trans same
  · cases Option.some.inj (left.symm.trans same)
    exact ⟨young, recent⟩

theorem sweepAt_of_settled (young : ∀ r ∈ s.records, isStuck c.stuck r = false)
    (recent : ∀ r ∈ s.records, isExpired c.failed r = false) (notLater : c.failed.micros ≤ clock.micros) :
    sweepAt timeout c clock s = (⟨0, 0⟩, s) := by
  have nothing {holds : Record → Bool} (all : ∀ r ∈ s.records, holds r = false) : s.records.countP holds = 0 := by
    simpa [List.countP_eq_zero] using all
  have same : (sweepAt timeout c clock s).2.records = s.records := by
    rw [sweepAt_records notLater]
    refine (List.filterMap_congr fun r member => ?_).trans List.filterMap_some
    simp [swept, young r member, recent r member]
  refine Prod.ext ?_ (congrArg Store.mk same)
  rw [sweepAt_report notLater, nothing young, nothing recent]

theorem intended_notLater (retained : 0 ≤ settings.retentionDays) :
    (intended settings now).failed.micros ≤ now.micros := by
  dsimp only [intended]
  omega

/-- A sweep with the cutoffs that settings ask for. -/
def sweepNow (settings : Settings) (now : Instant) (s : Store) : Report × Store :=
  sweepAt settings.generationTimeout (intended settings now) now s

theorem settled_sweepNow (retained : 0 ≤ settings.retentionDays) (member : r ∈ (sweepNow settings now s).2.records) :
    isStuck (intended settings now).stuck r = false ∧ isExpired (intended settings now).failed r = false := by
  have notLater : (intended settings now).failed.micros ≤ now.micros := intended_notLater retained
  rw [sweepNow, sweepAt_records notLater, List.mem_filterMap] at member
  obtain ⟨_, -, left⟩ := member
  exact settled_of_swept notLater left

theorem find?_sweepNow (unique : s.HasUniqueIds) (retained : 0 ≤ settings.retentionDays) (member : r ∈ s.records) :
    (sweepNow settings now s).2.find? r.lessonId = swept (intended settings now) now (lateMessage settings) r := by
  rw [sweepNow, find?_sweepAt unique (intended_notLater retained), unique.find?_eq_some_iff.mpr ⟨member, rfl⟩]
  rfl

theorem sweepNow_leaves (unique : s.HasUniqueIds) (retained : 0 ≤ settings.retentionDays)
    (message : capMessage (lateMessage settings) = lateMessage settings) :
    Leaves settings now s (sweepNow settings now s).1 (sweepNow settings now s).2 where
  noneLate r member late := by
    rw [← isStuck_iff_isLate, (settled_sweepNow retained member).1] at late
    cases late
  noneOld r member old := by
    rw [← isExpired_iff_isOld, (settled_sweepNow retained member).2] at old
    cases old
  kept r member young recent := by
    rw [← isStuck_iff_isLate, Bool.not_eq_true] at young
    rw [← isExpired_iff_isOld, Bool.not_eq_true] at recent
    rw [find?_sweepNow unique retained member, swept, young, recent]
    rfl
  failed r member late := by
    rw [find?_sweepNow unique retained member, swept, if_pos (isStuck_iff_isLate.mpr late), Record.abandon, message]
  removed r member old := by
    have expired := isExpired_iff_isOld.mpr old
    have young : isStuck (intended settings now).stuck r = false := by
      simp [isStuck, old.1]
    rw [find?_sweepNow unique retained member, swept, young, expired]
    rfl
  noneAdded r member := by
    rw [sweepNow, sweepAt_records (intended_notLater retained), List.mem_filterMap] at member
    obtain ⟨r', before, left⟩ := member
    refine ⟨r', before, ?_⟩
    obtain ⟨-, same⟩ | ⟨-, same⟩ | ⟨-, -, same⟩ := swept_cases (intended settings now) now _ r'
    · cases Option.some.inj (left.symm.trans same)
      rfl
    · cases left.symm.trans same
    · cases Option.some.inj (left.symm.trans same)
      rfl
  countsFailed := by
    rw [sweepNow, sweepAt_report (intended_notLater retained)]
    refine List.countP_congr fun r member => ?_
    rw [← sweepNow, find?_sweepNow unique retained member]
    obtain ⟨stuck, same⟩ | ⟨old, same⟩ | ⟨young, -, same⟩ :=
      swept_cases (intended settings now) now (lateMessage settings) r
    · simp [same, stuck, (isStuck_iff.mp stuck).1]
    · simp [same, isStuck, (isExpired_iff.mp old).1]
    · have unfailed : r.status = .generating → ¬r.status = .failed := fun unfinished => by simp [unfinished]
      simpa [same, young] using unfailed
  countsRemoved := by
    rw [sweepNow, sweepAt_report (intended_notLater retained)]
    refine List.countP_congr fun r member => ?_
    rw [← sweepNow, find?_sweepNow unique retained member]
    obtain ⟨stuck, same⟩ | ⟨old, same⟩ | ⟨-, recent, same⟩ :=
      swept_cases (intended settings now) now (lateMessage settings) r
    · simp [same, isExpired_eq_false_of_isStuck stuck]
    · simp [same, old]
    · simp [same, recent]

/-- A sweep at the time of the clock, over lessons that are kept as they should be. It is done if the time line
reaches back far enough for the settings, and else it fails and does nothing. When it is done no lesson is late and
none is old, the late ones have failed with the message that says so, everything else is as before, what is reported
has been counted rightly, and a second sweep finds nothing to do. -/
theorem sweep_settles (unique : s.HasUniqueIds) (sound : ∀ r ∈ s.records, r.IsSound)
    (retained : 0 ≤ settings.retentionDays) (within : now.micros < (Instant.ofYear 10000).micros) :
    ((∃ done, sweep settings now now s = .ok done) ↔ Reaches settings now) ∧
    ∀ report after, sweep settings now now s = .ok (report, after) →
      Leaves settings now s report after ∧ sweep settings now now after = .ok (⟨0, 0⟩, after) ∧
      after.HasUniqueIds ∧ ∀ r ∈ after.records, r.IsSound := by
  refine ⟨exists_sweep_iff within, ?_⟩
  intro report after ran
  obtain ⟨c, counted, done⟩ := sweep_eq_ok_iff.mp ran
  obtain ⟨reaches, rfl⟩ := (cutoffs_eq_ok_iff within).mp counted
  obtain rfl : (sweepNow settings now s).1 = report := congrArg Prod.fst done
  obtain rfl : (sweepNow settings now s).2 = after := congrArg Prod.snd done
  refine ⟨sweepNow_leaves unique retained (capMessage_lateMessage within reaches), ?_, ?_, ?_⟩
  · have again : sweepNow settings now (sweepNow settings now s).2 = (⟨0, 0⟩, (sweepNow settings now s).2) :=
      sweepAt_of_settled (fun r member => (settled_sweepNow retained member).1)
        (fun r member => (settled_sweepNow retained member).2) (intended_notLater retained)
    exact sweep_eq_ok_iff.mpr ⟨_, counted, again⟩
  · rw [sweepNow, sweepAt_afterAll]
    exact unique.afterAll _
  · rw [sweepNow, sweepAt_afterAll]
    exact afterAll_forall _ Record.start_isSound (fun _ _ _ step => step.isSound) sound

/-- A lesson that is late and another one that failed long ago. -/
theorem sweep_settles_lateAndOld : ∃ settings,
    let now : Instant := .ofYear 2024
    let late := Record.start (.ofYear 2023) "a" "Explain photosynthesis" interimTitle
    let old := (Record.start (.ofYear 2023) "b" "Explain gravity" interimTitle).fail (.ofYear 2023) "No reply"
    Environment.settings [("LESSONFORGE_ALLOWED_ORIGINS", "http://localhost:3000")] = .ok settings ∧
      HasUniqueIds ⟨[late, old]⟩ ∧ (∀ r ∈ [late, old], r.IsSound) ∧
      ∃ after, sweep settings now now ⟨[late, old]⟩ = .ok (⟨1, 1⟩, after) ∧ after.find? "b" = none ∧
        after.find? "a" =
          some { late with status := .failed, message := some "Generation timeout after 10 minutes", updatedAt := now } ∧
        sweep settings now now after = .ok (⟨0, 0⟩, after) := by
  have read : (Environment.settings [("LESSONFORGE_ALLOWED_ORIGINS", "http://localhost:3000")]).map Settings.spans =
      .ok (300, 600, 7) := by decide +kernel
  obtain ⟨settings, loaded, window, timeout, retention⟩ := Environment.exists_of_spans read
  refine ⟨settings, ?_⟩
  intro now late old
  have unique : HasUniqueIds ⟨[late, old]⟩ := by
    unfold HasUniqueIds
    decide
  have born := Record.start_isSound (.ofYear 2023)
  have sound : ∀ r ∈ [late, old], r.IsSound :=
    List.forall_mem_cons.mpr ⟨born _ _ _, List.forall_mem_singleton.mpr ((Record.Step.fail rfl _).isSound (born _ _ _))⟩
  have retained : 0 ≤ settings.retentionDays := by omega
  have within : now.micros < (Instant.ofYear 10000).micros := by decide
  have reaches : Reaches settings now := ⟨timeout ▸ by decide, retention ▸ by decide⟩
  obtain ⟨done, settles⟩ := sweep_settles unique sound retained within
  obtain ⟨⟨report, after⟩, ran⟩ := done.mpr reaches
  obtain ⟨leaves, again, -⟩ := settles report after ran
  have counts : (sweep settings now now ⟨[late, old]⟩).map Prod.fst = .ok ⟨1, 1⟩ := by
    rw [sweep, cutoffs, timeout, retention]
    decide +kernel
  rw [ran] at counts
  obtain rfl := Except.ok.inj counts
  have isOld : IsOld settings now old := ⟨rfl, retention ▸ by decide⟩
  have isLate : IsLate settings now late := ⟨rfl, timeout ▸ by decide⟩
  have told : lateMessage settings = "Generation timeout after 10 minutes" := by
    rw [lateMessage, timeout]
    decide +kernel
  refine ⟨loaded, unique, sound, after, ran, leaves.removed old (by simp) isOld, ?_, again⟩
  rw [← told]
  exact leaves.failed late (by simp) isLate

/-- Failed lessons that are to be kept for longer than the time line goes back: a lesson that is late stays as it is,
since the sweep fails before anything is done. -/
theorem sweep_beyond_reach : ∃ settings,
    let now : Instant := .ofYear 2024
    let late := Record.start (.ofYear 2023) "a" "Explain photosynthesis" interimTitle
    Environment.settings [("LESSONFORGE_ALLOWED_ORIGINS", "http://localhost:3000"),
      ("LESSONFORGE_FAILED_RETENTION_DAYS", "1000000")] = .ok settings ∧
      IsLate settings now late ∧ late.IsSound ∧ sweep settings now now ⟨[late]⟩ = .error .outOfRange := by
  have read : (Environment.settings [("LESSONFORGE_ALLOWED_ORIGINS", "http://localhost:3000"),
      ("LESSONFORGE_FAILED_RETENTION_DAYS", "1000000")]).map Settings.spans = .ok (300, 600, 1000000) := by
    decide +kernel
  obtain ⟨settings, loaded, window, timeout, retention⟩ := Environment.exists_of_spans read
  refine ⟨settings, loaded, ⟨rfl, timeout ▸ by decide⟩, Record.start_isSound _ _ _ _, ?_⟩
  rw [sweep, cutoffs, timeout, retention]
  rfl

end LessonService.Maintenance
