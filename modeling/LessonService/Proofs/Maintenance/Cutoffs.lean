import LessonService.Maintenance
import LessonService.Proofs.Settings.Loading
import Mathlib.Tactic.SplitIfs

namespace LessonService

namespace Instant

variable {i earlier : Instant} {n : Int}

/-- The first instant of a year. -/
def ofYear (year : Int) : Instant := ofDateTime ⟨⟨year, 1, 1⟩, 0, none⟩

/-- How many whole seconds of the time line have passed before an instant. -/
def past (i : Instant) : Int := (i.micros - first.micros) / 1000000

/-- On the time line, and before some instant. -/
structure Precedes (earlier i : Instant) : Prop where
  counted : first.micros ≤ earlier.micros
  before : earlier.micros < i.micros

theorem le_past_iff : n ≤ i.past ↔ first.micros ≤ i.micros - n * 1000000 := by
  rw [past, Int.le_ediv_iff_mul_le (by decide)]
  omega

/-- The time line is so short that every span that stays on it can be counted. -/
theorem minusSeconds_eq_ok_iff (within : i.micros < (ofYear 10000).micros) :
    i.minusSeconds n = .ok earlier ↔ n ≤ i.past ∧ earlier = ⟨i.micros - n * 1000000⟩ := by
  have start : first.micros = -62135596800000000 := by decide
  have stop : (ofYear 10000).micros = 253402300800000000 := by decide
  have days : n.fdiv 86400 = n / 86400 := Int.fdiv_eq_ediv_of_nonneg n (by decide)
  rw [le_past_iff, minusSeconds, days]
  dsimp only
  split_ifs with huge long before
  · simp only [false_iff]
    omega
  · simp only [false_iff]
    omega
  · simp only [false_iff]
    omega
  · rw [Except.ok.injEq, eq_comm]
    exact (and_iff_right (Int.not_lt.mp before)).symm

theorem precedes_of_le_past (positive : 0 < n) (fits : n ≤ i.past) : Precedes ⟨i.micros - n * 1000000⟩ i where
  counted := le_past_iff.mp fits
  before := by
    dsimp only
    omega

theorem exists_minusSeconds_iff (within : i.micros < (ofYear 10000).micros) (positive : 0 < n) :
    (∃ earlier, i.minusSeconds n = .ok earlier ∧ earlier.Precedes i) ↔ n ≤ i.past := by
  constructor
  · rintro ⟨earlier, counted, -⟩
    exact ((minusSeconds_eq_ok_iff within).mp counted).1
  · exact fun fits => ⟨_, (minusSeconds_eq_ok_iff within).mpr ⟨fits, rfl⟩, precedes_of_le_past positive fits⟩

end Instant

namespace Maintenance

variable {settings : Settings} {now clock : Instant} {c : Cutoffs} {s : Store}

/-- The time line reaches back as far as lessons may take, and as far as failed ones are kept. -/
structure Reaches (settings : Settings) (now : Instant) : Prop where
  timeout : settings.generationTimeout ≤ now.past
  retention : settings.retentionDays * 86400 ≤ now.past

/-- The times that settings ask for, whether they are on the time line or not. -/
def intended (settings : Settings) (now : Instant) : Cutoffs where
  stuck := ⟨now.micros - settings.generationTimeout * 1000000⟩
  failed := ⟨now.micros - settings.retentionDays * 86400 * 1000000⟩

theorem cutoffs_eq_ok_iff (within : now.micros < (Instant.ofYear 10000).micros) :
    cutoffs settings now = .ok c ↔ Reaches settings now ∧ c = intended settings now := by
  constructor
  · intro ran
    obtain ⟨stuck, first, ran⟩ := Except.bind_eq_ok ran
    obtain ⟨failed, second, ran⟩ := Except.bind_eq_ok ran
    obtain ⟨timeout, rfl⟩ := (Instant.minusSeconds_eq_ok_iff within).mp first
    obtain ⟨retention, rfl⟩ := (Instant.minusSeconds_eq_ok_iff within).mp second
    cases ran
    exact ⟨⟨timeout, retention⟩, rfl⟩
  · rintro ⟨⟨timeout, retention⟩, rfl⟩
    have first := (Instant.minusSeconds_eq_ok_iff within).mpr ⟨timeout, rfl⟩
    have second : now.minusDays settings.retentionDays = _ :=
      (Instant.minusSeconds_eq_ok_iff within).mpr ⟨retention, rfl⟩
    rw [cutoffs, first, second]
    rfl

theorem sweep_eq_ok_iff {swept : Report × Store} : sweep settings now clock s = .ok swept ↔
    ∃ c, cutoffs settings now = .ok c ∧ sweepAt settings.generationTimeout c clock s = swept := by
  unfold sweep
  cases cutoffs settings now with
  | error e => simp [Except.map]
  | ok c => simp [Except.map]

/-- Lessons are swept exactly if the time line reaches back far enough. -/
theorem exists_sweep_iff (within : now.micros < (Instant.ofYear 10000).micros) :
    (∃ swept, sweep settings now clock s = .ok swept) ↔ Reaches settings now := by
  simp only [sweep_eq_ok_iff, cutoffs_eq_ok_iff within]
  constructor
  · rintro ⟨_, _, ⟨reaches, -⟩, -⟩
    exact reaches
  · exact fun reaches => ⟨_, _, ⟨reaches, rfl⟩, rfl⟩

end Maintenance

end LessonService
