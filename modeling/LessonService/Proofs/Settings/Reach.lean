import LessonService.Proofs.Maintenance.Cutoffs
import LessonService.Proofs.Web.LessonRequests

namespace LessonService

namespace Web

open Handler

variable {σ : Type} {s : Service σ} {now : Instant} {outline : Text}

/-- Looking for a lesson with the same outline fails in a way that nobody has provided for exactly if the time from
which on lessons count is not on the time line. -/
theorem refuseDuplicate_unforeseen_iff :
    (refuseDuplicate now outline).Runs s (.error .unforeseen) s ↔
      ¬∃ since, now.minusSeconds s.settings.duplicateWindow = .ok since := by
  unfold refuseDuplicate
  rw [get_bind_runs]
  cases counted : now.minusSeconds s.settings.duplicateWindow with
  | error e =>
    simp only [reduceCtorEq, exists_false, not_false_iff, iff_true]
    rfl
  | ok since =>
    simp only [Except.ok.injEq, exists_eq', not_true, iff_false]
    intro ran
    obtain ⟨_, looked, -⟩ | ⟨_, _, looked, ran⟩ := bind_runs.mp ran
    · cases looked
    · cases looked
      cases found : s.store.findDuplicate? outline since with
      | none =>
        rw [found] at ran
        cases ran
      | some existing =>
        rw [found] at ran
        cases ran

/-- Settings that are accepted, at any time from the year 2020 to the year 9000. The duplicate window of a request,
the time that lessons may take and the days that failed ones are kept lead to times before now on the time line if
they are no longer than what has passed of it, which is 2019 years at least. The setting that is longer makes every
search for a duplicate an unforeseen problem, or every sweep a failure. -/
theorem reach_of_settings {e : Environment} {settings : Settings} (loaded : e.settings = .ok settings)
    (since : (Instant.ofYear 2020).micros ≤ now.micros) (until_ : now.micros < (Instant.ofYear 9001).micros) :
    63713433600 ≤ now.past ∧
    ((∃ cutoff, now.minusSeconds settings.duplicateWindow = .ok cutoff ∧ cutoff.Precedes now) ↔
      settings.duplicateWindow ≤ now.past) ∧
    (∀ (σ : Type) (s : Service σ) outline, s.settings = settings →
      ((refuseDuplicate now outline).Runs s (.error .unforeseen) s ↔ now.past < settings.duplicateWindow)) ∧
    ((∃ c, Maintenance.cutoffs settings now = .ok c ∧ c.stuck.Precedes now ∧ c.failed.Precedes now) ↔
      Maintenance.Reaches settings now) ∧
    ∀ clock store, (∃ swept, Maintenance.sweep settings now clock store = .ok swept) ↔
      Maintenance.Reaches settings now := by
  have gives := Environment.gives_of_settings loaded
  have within : now.micros < (Instant.ofYear 10000).micros := Int.lt_trans until_ (by decide)
  have window := Environment.positive_pos gives.duplicateWindow
  have timeout := Environment.positive_pos gives.generationTimeout
  have days := Environment.positive_pos gives.retentionDays
  refine ⟨?_, Instant.exists_minusSeconds_iff within window, ?_, ?_, fun _ _ => Maintenance.exists_sweep_iff within⟩
  · have years : (Instant.ofYear 2020).micros = Instant.first.micros + 63713433600 * 1000000 := by decide
    rw [Instant.le_past_iff]
    omega
  · rintro σ s outline rfl
    rw [refuseDuplicate_unforeseen_iff, ← Int.not_le]
    simp only [Instant.minusSeconds_eq_ok_iff within, exists_and_left, exists_eq, and_true]
  · constructor
    · rintro ⟨c, counted, -⟩
      exact ((Maintenance.cutoffs_eq_ok_iff within).mp counted).1
    · intro reaches
      exact ⟨_, (Maintenance.cutoffs_eq_ok_iff within).mpr ⟨reaches, rfl⟩,
        Instant.precedes_of_le_past timeout reaches.timeout,
        Instant.precedes_of_le_past (by omega) reaches.retention⟩

/-- The settings of an environment that chooses nothing but the origins, on the first day of the year 2024. -/
theorem reach_of_settings_standard : ∃ settings,
    Environment.settings [("LESSONFORGE_ALLOWED_ORIGINS", "http://localhost:3000")] = .ok settings ∧
      (∃ since, (Instant.ofYear 2024).minusSeconds settings.duplicateWindow = .ok since) ∧
      ∃ c, Maintenance.cutoffs settings (.ofYear 2024) = .ok c := by
  have read : (Environment.settings [("LESSONFORGE_ALLOWED_ORIGINS", "http://localhost:3000")]).map Settings.spans =
      .ok (300, 600, 7) := by decide +kernel
  obtain ⟨settings, loaded, window, timeout, retention⟩ := Environment.exists_of_spans read
  obtain ⟨past, looked, -, counted, -⟩ := reach_of_settings loaded
    (show (Instant.ofYear 2020).micros ≤ (Instant.ofYear 2024).micros by decide) (by decide)
  obtain ⟨since, looked, -⟩ := looked.mpr (by omega)
  obtain ⟨c, counted, -⟩ := counted.mpr ⟨by omega, by omega⟩
  exact ⟨settings, loaded, ⟨since, looked⟩, c, counted⟩

/-- Settings that are accepted and ask for times that have never been. -/
theorem settings_beyond_reach : ∃ settings,
    Environment.settings [("LESSONFORGE_ALLOWED_ORIGINS", "http://localhost:3000"),
      ("LESSONFORGE_DUPLICATE_WINDOW_SECONDS", "100000000000"), ("LESSONFORGE_FAILED_RETENTION_DAYS", "1000000")] =
        .ok settings ∧
      (Instant.ofYear 2024).minusSeconds settings.duplicateWindow = .error .outOfRange ∧
      Maintenance.cutoffs settings (.ofYear 2024) = .error .outOfRange := by
  have read : (Environment.settings [("LESSONFORGE_ALLOWED_ORIGINS", "http://localhost:3000"),
      ("LESSONFORGE_DUPLICATE_WINDOW_SECONDS", "100000000000"), ("LESSONFORGE_FAILED_RETENTION_DAYS", "1000000")]).map
        Settings.spans = .ok (100000000000, 600, 1000000) := by decide +kernel
  obtain ⟨settings, loaded, window, timeout, retention⟩ := Environment.exists_of_spans read
  refine ⟨settings, loaded, ?_, ?_⟩
  · rw [window]
    rfl
  · rw [Maintenance.cutoffs, timeout, retention]
    rfl

end Web

end LessonService
