import LessonService.Generation.Models
import LessonService.Proofs.Quota.Windows
import LessonService.Proofs.Settings.Loading
import LessonService.Proofs.Text.Trim

namespace LessonService

namespace Environment

/-- The variables that hold positive whole numbers. -/
def positiveNames : List Text := [
  "LESSONFORGE_LOG_MAX_BYTES", "LESSONFORGE_MAX_GENERATION_ATTEMPTS", "LESSONFORGE_GENERATION_TIMEOUT_SECONDS",
  "LESSONFORGE_COMPILE_MAX_CHARS", "LESSONFORGE_COMPILE_MIN_CHARS", "LESSONFORGE_PG_CONNECT_TIMEOUT",
  "LESSONFORGE_GENERATION_RATE_LIMIT", "LESSONFORGE_GENERATION_RATE_WINDOW_MS", "LESSONFORGE_COMPILE_RATE_LIMIT",
  "LESSONFORGE_COMPILE_RATE_WINDOW_MS", "LESSONFORGE_DUPLICATE_WINDOW_SECONDS", "LESSONFORGE_FAILED_RETENTION_DAYS"]

def wholeNames : List Text := "LESSONFORGE_LOG_BACKUP_COUNT" :: positiveNames

/-- What can be wrong with an environment. -/
inductive IsFaulty (e : Environment) : SettingsError → Prop
  | notWhole {name value : Text} (asked : name ∈ wholeNames) (given : e.get? name = some value)
      (malformed : Decimal.whole value = .error .malformed) : IsFaulty e (.notWhole value)
  | tooManyDigits {name value : Text} {count : Nat} (asked : name ∈ wholeNames) (given : e.get? name = some value)
      (long : Decimal.whole value = .error (.tooLong count)) : IsFaulty e (.tooManyDigits count)
  | notPositive {name value : Text} {n : Int} (asked : name ∈ positiveNames) (given : e.get? name = some value)
      (read : Decimal.whole value = .ok n) (small : n ≤ 0) : IsFaulty e (.notPositive name)
  | negativeBackupCount {value : Text} {n : Int} (given : e.get? "LESSONFORGE_LOG_BACKUP_COUNT" = some value)
      (read : Decimal.whole value = .ok n) (negative : n < 0) : IsFaulty e .negativeBackupCount
  | unknownProvider (unknown : ∀ p : Provider, p.name ≠ Text.lower (e.trimmed "LESSONFORGE_MODEL_PROVIDER" "gemini")) :
      IsFaulty e .unknownProvider
  | notFraction {value : Text} (given : e.get? "LESSONFORGE_QUOTA_CLEANUP_PROBABILITY" = some value)
      (malformed : Decimal.double? value = none) : IsFaulty e (.notFraction value)
  | probabilityOutOfRange {value : Text} {x : Double}
      (given : e.get? "LESSONFORGE_QUOTA_CLEANUP_PROBABILITY" = some value) (read : Decimal.double? value = some x)
      (outside : ∀ q, x.value? = some q → ¬(0 ≤ q ∧ q ≤ 1)) : IsFaulty e .probabilityOutOfRange
  | limitsCrossed {most least : Int} (upper : e.positive "LESSONFORGE_COMPILE_MAX_CHARS" 500000 = .ok most)
      (lower : e.positive "LESSONFORGE_COMPILE_MIN_CHARS" 100 = .ok least) (crossed : most ≤ least) :
      IsFaulty e .limitsCrossed
  | originsUnset (unset : e.filled? "LESSONFORGE_ALLOWED_ORIGINS" = none) : IsFaulty e .originsUnset
  | originsEmpty {value : Text} (given : e.filled? "LESSONFORGE_ALLOWED_ORIGINS" = some value)
      (empty : ∀ part ∈ Text.splitOn ',' value, Text.trim part = []) : IsFaulty e .originsEmpty
  | originsOpen {value part : Text} (given : e.filled? "LESSONFORGE_ALLOWED_ORIGINS" = some value)
      (inside : part ∈ Text.splitOn ',' value) (anyone : Text.trim part = "*") : IsFaulty e .originsOpen

variable {e : Environment} {name value : Text} {standard n most least : Int} {fault : SettingsError} {s : Settings}

theorem whole_of_given (given : e.get? name = some value) :
    e.whole name standard =
      match Decimal.whole value with
      | .ok n => .ok n
      | .error .malformed => .error (.notWhole value)
      | .error (.tooLong count) => .error (.tooManyDigits count) := by
  unfold whole
  split
  · rename_i absent
    cases absent.symm.trans given
  · rename_i found
    cases found.symm.trans given
    rfl

theorem whole_of_unset (unset : e.get? name = none) : e.whole name standard = .ok standard := by
  rw [whole, unset]

theorem failsOnly_whole (asked : name ∈ wholeNames) : FailsOnly e.IsFaulty (e.whole name standard) := by
  cases given : e.get? name with
  | none =>
    rw [whole_of_unset given]
    exact .ok _
  | some value =>
    rw [whole_of_given given]
    split
    · exact .ok _
    · exact .error (.notWhole asked given ‹_›)
    · exact .error (.tooManyDigits asked given ‹_›)

theorem exists_given_of_whole (read : e.whole name standard = .ok n) (other : n ≠ standard) :
    ∃ value, e.get? name = some value ∧ Decimal.whole value = .ok n := by
  cases given : e.get? name with
  | none =>
    rw [whole_of_unset given] at read
    exact absurd (Except.ok.inj read).symm other
  | some value =>
    rw [whole_of_given given] at read
    split at read
    · cases read
      exact ⟨value, rfl, ‹_›⟩
    · cases read
    · cases read

theorem failsOnly_positive (asked : name ∈ positiveNames) (usual : 0 < standard) :
    FailsOnly e.IsFaulty (e.positive name standard) := by
  refine .bind (failsOnly_whole (List.mem_cons_of_mem _ asked)) fun n read => ?_
  split
  · rename_i small
    obtain ⟨value, given, read⟩ := exists_given_of_whole read (by omega)
    exact .error (.notPositive asked given read small)
  · exact .ok _

theorem failsOnly_backupCount (e : Environment) : FailsOnly e.IsFaulty e.backupCount := by
  refine .bind (failsOnly_whole List.mem_cons_self) fun n read => ?_
  split
  · rename_i negative
    obtain ⟨value, given, read⟩ := exists_given_of_whole read (by omega)
    exact .error (.negativeBackupCount given read negative)
  · exact .ok _

theorem whole_of_positive (read : e.positive name standard = .ok n) : e.whole name standard = .ok n := by
  obtain ⟨m, whole, checked⟩ := Except.bind_eq_ok read
  split at checked
  · cases checked
  · cases checked
    exact whole

theorem backupCount_ok (read : e.backupCount = .ok n) :
    e.whole "LESSONFORGE_LOG_BACKUP_COUNT" 10 = .ok n ∧ 0 ≤ n := by
  obtain ⟨m, whole, checked⟩ := Except.bind_eq_ok read
  split at checked
  · cases checked
  · cases checked
    exact ⟨whole, Int.not_lt.mp ‹_›⟩

theorem failsOnly_provider (e : Environment) : FailsOnly e.IsFaulty e.provider := by
  unfold provider
  split
  · exact .ok _
  · rename_i unknown
    rw [Provider.ofName?, List.find?_eq_none] at unknown
    refine .error (.unknownProvider fun p same => unknown p ?_ (decide_eq_true same))
    cases p <;> simp

theorem provider_ok {p : Provider} (read : e.provider = .ok p) :
    p.name = Text.lower (e.trimmed "LESSONFORGE_MODEL_PROVIDER" "gemini") := by
  unfold provider at read
  split at read
  · rename_i found
    cases read
    rw [Provider.ofName?] at found
    have named := List.find?_some found
    exact of_decide_eq_true named
  · cases read

/-- The probability that holds if none is chosen. -/
theorem double?_standard : ∃ x q, Decimal.double? "0.01" = some x ∧ x.value? = some q ∧ 0 ≤ q ∧ q ≤ 1 := by
  have read : ((Decimal.double? "0.01").bind Double.value?).any (fun q => 0 ≤ q && q ≤ 1) = true := by decide +kernel
  obtain ⟨q, valued, inside⟩ := (Option.any_eq_true ..).mp read
  obtain ⟨x, read, valued⟩ := Option.bind_eq_some_iff.mp valued
  rw [Bool.and_eq_true, decide_eq_true_eq, decide_eq_true_eq] at inside
  exact ⟨x, q, read, valued, inside⟩

/-- What is read as the probability that old windows are dropped. -/
def probabilityText (e : Environment) : Text := (e.get? "LESSONFORGE_QUOTA_CLEANUP_PROBABILITY").getD "0.01"

theorem cleanupProbability_ok {x : Double} (read : e.cleanupProbability = .ok x) :
    Decimal.double? e.probabilityText = some x ∧ ∃ q, x.value? = some q ∧ 0 ≤ q ∧ q ≤ 1 := by
  unfold cleanupProbability at read
  dsimp only at read
  split at read
  · cases read
  · rename_i y readable
    split at read
    · rename_i q valued
      split at read
      · rename_i inside
        cases read
        rw [Bool.and_eq_true, decide_eq_true_eq, decide_eq_true_eq] at inside
        exact ⟨readable, q, valued, inside⟩
      · cases read
    · cases read

theorem cleanupProbability_of_read {x : Double} {q : Rat} (read : Decimal.double? e.probabilityText = some x)
    (valued : x.value? = some q) (inside : 0 ≤ q ∧ q ≤ 1) : e.cleanupProbability = .ok x := by
  unfold probabilityText at read
  unfold cleanupProbability
  simp [read, valued, inside]

theorem failsOnly_cleanupProbability (e : Environment) : FailsOnly e.IsFaulty e.cleanupProbability := by
  cases given : e.get? "LESSONFORGE_QUOTA_CLEANUP_PROBABILITY" with
  | none =>
    obtain ⟨x, q, read, valued, inside⟩ := double?_standard
    rw [cleanupProbability_of_read (by rwa [probabilityText, given]) valued inside]
    exact .ok _
  | some value =>
    unfold cleanupProbability
    rw [given]
    dsimp only [Option.getD_some]
    split
    · exact .error (.notFraction given ‹_›)
    · rename_i x read
      split
      · rename_i q valued
        split
        · exact .ok _
        · rename_i outside
          refine .error (.probabilityOutOfRange given read fun q' valued' inside => outside ?_)
          cases valued.symm.trans valued'
          simpa using inside
      · rename_i unvalued
        refine .error (.probabilityOutOfRange given read fun q valued => ?_)
        cases unvalued.symm.trans valued

theorem codeLimits_ok (read : e.codeLimits = .ok (most, least)) :
    e.positive "LESSONFORGE_COMPILE_MAX_CHARS" 500000 = .ok most ∧
      e.positive "LESSONFORGE_COMPILE_MIN_CHARS" 100 = .ok least ∧ least < most := by
  obtain ⟨_, upper, read⟩ := Except.bind_eq_ok read
  obtain ⟨_, lower, read⟩ := Except.bind_eq_ok read
  split at read
  · cases read
  · cases read
    exact ⟨upper, lower, Int.not_le.mp ‹_›⟩

theorem failsOnly_codeLimits (e : Environment) : FailsOnly e.IsFaulty e.codeLimits := by
  refine .bind (failsOnly_positive (by simp [positiveNames]) (by decide)) fun most upper => ?_
  refine .bind (failsOnly_positive (by simp [positiveNames]) (by decide)) fun least lower => ?_
  split
  · exact .error (.limitsCrossed upper lower ‹_›)
  · exact .ok _

/-- The parts of a list of origins that are not blank. -/
theorem mem_origins {value o : Text} :
    o ∈ ((Text.splitOn ',' value).map Text.trim).filter (fun o => !o.isEmpty) ↔
      o ≠ [] ∧ ∃ part ∈ Text.splitOn ',' value, Text.trim part = o := by
  simp [and_comm]

theorem failsOnly_origins (e : Environment) : FailsOnly e.IsFaulty e.origins := by
  unfold origins
  dsimp only
  split
  · exact .error (.originsUnset ‹_›)
  · rename_i value given
    split
    · rename_i empty
      refine .error (.originsEmpty given fun part inside => ?_)
      by_contra filled
      have member := mem_origins.mpr ⟨filled, part, inside, rfl⟩
      rw [List.isEmpty_iff.mp empty] at member
      cases member
    · split
      · rename_i open_
        obtain ⟨-, part, inside, anyone⟩ := mem_origins.mp (List.contains_iff_mem.mp open_)
        exact .error (.originsOpen given inside anyone)
      · exact .ok _

/-- What is known of the origins that have been read. -/
structure AreOrigins (e : Environment) (all : List Text) : Prop where
  exists_given : ∃ value, e.filled? "LESSONFORGE_ALLOWED_ORIGINS" = some value ∧
    ∀ o, o ∈ all ↔ o ≠ [] ∧ ∃ part ∈ Text.splitOn ',' value, Text.trim part = o
  ne_nil : all ≠ []
  closed : ("*" : Text) ∉ all

theorem areOrigins {all : List Text} (read : e.origins = .ok all) : e.AreOrigins all := by
  unfold origins at read
  dsimp only at read
  split at read
  · cases read
  · rename_i value given
    split at read
    · cases read
    · rename_i filled
      split at read
      · cases read
      · rename_i closed
        cases read
        exact ⟨⟨value, given, fun o => mem_origins⟩, by simpa using filled, fun open_ =>
          closed (List.contains_iff_mem.mpr open_)⟩

theorem failsOnly_settings (e : Environment) : FailsOnly e.IsFaulty e.settings := by
  unfold settings
  refine .bind (failsOnly_positive (by simp [positiveNames]) (by decide)) fun _ _ => ?_
  refine .bind (failsOnly_backupCount e) fun _ _ => ?_
  refine .bind (failsOnly_provider e) fun _ _ => ?_
  refine .bind (failsOnly_positive (by simp [positiveNames]) (by decide)) fun _ _ => ?_
  refine .bind (failsOnly_positive (by simp [positiveNames]) (by decide)) fun _ _ => ?_
  refine .bind (failsOnly_cleanupProbability e) fun _ _ => ?_
  refine .bind (failsOnly_codeLimits e) fun _ _ => ?_
  refine .bind (failsOnly_origins e) fun _ _ => ?_
  refine .bind (failsOnly_positive (by simp [positiveNames]) (by decide)) fun _ _ => ?_
  refine .bind (failsOnly_positive (by simp [positiveNames]) (by decide)) fun _ _ => ?_
  refine .bind (failsOnly_positive (by simp [positiveNames]) (by decide)) fun _ _ => ?_
  refine .bind (failsOnly_positive (by simp [positiveNames]) (by decide)) fun _ _ => ?_
  refine .bind (failsOnly_positive (by simp [positiveNames]) (by decide)) fun _ _ => ?_
  refine .bind (failsOnly_positive (by simp [positiveNames]) (by decide)) fun _ _ => ?_
  refine .bind (failsOnly_positive (by simp [positiveNames]) (by decide)) fun _ _ => ?_
  exact .ok _

namespace Gives

variable (gives : e.Gives s)

include gives

theorem exists_positive : ∀ name ∈ positiveNames, ∃ standard n, e.positive name standard = .ok n := by
  obtain ⟨upper, lower, -⟩ := codeLimits_ok gives.codeLimits
  simp only [positiveNames, List.forall_mem_cons]
  exact ⟨⟨_, _, gives.logMaxBytes⟩, ⟨_, _, gives.maxAttempts⟩, ⟨_, _, gives.generationTimeout⟩, ⟨_, _, upper⟩,
    ⟨_, _, lower⟩, ⟨_, _, gives.connectTimeout⟩, ⟨_, _, gives.generationLimit⟩, ⟨_, _, gives.generationWindow⟩,
    ⟨_, _, gives.compileLimit⟩, ⟨_, _, gives.compileWindow⟩, ⟨_, _, gives.duplicateWindow⟩, ⟨_, _, gives.retentionDays⟩,
    List.forall_mem_nil _⟩

theorem exists_whole (asked : name ∈ wholeNames) (given : e.get? name = some value) :
    ∃ n, Decimal.whole value = .ok n := by
  have read : ∃ standard n, e.whole name standard = .ok n := by
    rcases List.mem_cons.mp asked with rfl | asked
    · exact ⟨_, _, (backupCount_ok gives.logBackupCount).1⟩
    · obtain ⟨standard, n, read⟩ := gives.exists_positive name asked
      exact ⟨standard, n, whole_of_positive read⟩
  obtain ⟨standard, n, read⟩ := read
  rw [whole_of_given given] at read
  split at read
  · exact ⟨_, ‹_›⟩
  · cases read
  · cases read

/-- Nothing is wrong with an environment that settings have been read from. -/
theorem not_isFaulty (fault : SettingsError) : ¬e.IsFaulty fault := by
  intro faulty
  cases faulty with
  | notWhole asked given malformed =>
    obtain ⟨n, read⟩ := gives.exists_whole asked given
    cases malformed.symm.trans read
  | tooManyDigits asked given long =>
    obtain ⟨n, read⟩ := gives.exists_whole asked given
    cases long.symm.trans read
  | notPositive asked given read small =>
    obtain ⟨standard, m, positive⟩ := gives.exists_positive _ asked
    have whole := whole_of_positive positive
    rw [whole_of_given given, read] at whole
    cases whole
    exact absurd small (Int.not_le.mpr (positive_pos positive))
  | negativeBackupCount given read negative =>
    obtain ⟨whole, counted⟩ := backupCount_ok gives.logBackupCount
    rw [whole_of_given given, read] at whole
    cases whole
    exact absurd negative (Int.not_lt.mpr counted)
  | unknownProvider unknown => exact unknown _ (provider_ok gives.provider)
  | notFraction given malformed =>
    have read := (cleanupProbability_ok gives.cleanupProbability).1
    rw [probabilityText, given, Option.getD_some, malformed] at read
    cases read
  | probabilityOutOfRange given read outside =>
    obtain ⟨read', q, valued, inside⟩ := cleanupProbability_ok gives.cleanupProbability
    rw [probabilityText, given, Option.getD_some, read] at read'
    cases read'
    exact outside q valued inside
  | limitsCrossed upper lower crossed =>
    obtain ⟨upper', lower', apart⟩ := codeLimits_ok gives.codeLimits
    cases upper.symm.trans upper'
    cases lower.symm.trans lower'
    omega
  | originsUnset unset =>
    obtain ⟨value, given, -⟩ := (areOrigins gives.allowedOrigins).exists_given
    cases unset.symm.trans given
  | originsEmpty given empty =>
    have origins := areOrigins gives.allowedOrigins
    obtain ⟨value, given', members⟩ := origins.exists_given
    cases given.symm.trans given'
    obtain ⟨o, member⟩ := List.exists_mem_of_ne_nil _ origins.ne_nil
    obtain ⟨filled, part, inside, rfl⟩ := (members o).mp member
    exact filled (empty part inside)
  | originsOpen given inside anyone =>
    have origins := areOrigins gives.allowedOrigins
    obtain ⟨value, given', members⟩ := origins.exists_given
    cases given.symm.trans given'
    exact origins.closed ((members _).mpr ⟨by decide, _, inside, anyone⟩)

end Gives

end Environment

namespace Settings

/-- The whole numbers of settings that have to be positive. -/
def amounts (s : Settings) : List Int := [
  s.maxAttempts, s.generationTimeout, s.connectTimeout, s.generationLimit, s.compileLimit, s.generationWindow,
  s.compileWindow, s.duplicateWindow, s.compileMaxChars, s.compileMinChars, s.logMaxBytes, s.retentionDays]

structure AreInRange (s : Settings) : Prop where
  origins_ne_nil : s.allowedOrigins ≠ []
  origins : ∀ o ∈ s.allowedOrigins, o ≠ [] ∧ Text.trim o = o ∧ o ≠ "*"
  provider : s.provider.name = "gemini" ∨ s.provider.name = "openrouter"
  amounts : ∀ n ∈ s.amounts, 1 ≤ n
  backupCount : 0 ≤ s.logBackupCount
  probability : ∃ q, s.cleanupProbability.value? = some q ∧ 0 ≤ q ∧ q ≤ 1
  codeLimits : s.compileMinChars < s.compileMaxChars

end Settings

theorem Environment.Gives.areInRange {e : Environment} {s : Settings} (gives : e.Gives s) : s.AreInRange := by
  have origins := areOrigins gives.allowedOrigins
  obtain ⟨value, -, members⟩ := origins.exists_given
  obtain ⟨upper, lower, apart⟩ := codeLimits_ok gives.codeLimits
  refine ⟨origins.ne_nil, ?_, ?_, ?_, (backupCount_ok gives.logBackupCount).2,
    (cleanupProbability_ok gives.cleanupProbability).2, apart⟩
  · intro o member
    obtain ⟨filled, part, -, rfl⟩ := (members o).mp member
    exact ⟨filled, (Text.trim_isTrimmed part).trim_eq, fun anyone => origins.closed (anyone ▸ member)⟩
  · cases s.provider with
    | gemini => exact .inl rfl
    | openRouter => exact .inr rfl
  · simp only [Settings.amounts, List.forall_mem_cons]
    exact ⟨positive_pos gives.maxAttempts, positive_pos gives.generationTimeout, positive_pos gives.connectTimeout,
      positive_pos gives.generationLimit, positive_pos gives.compileLimit, positive_pos gives.generationWindow,
      positive_pos gives.compileWindow, positive_pos gives.duplicateWindow, positive_pos upper, positive_pos lower,
      positive_pos gives.logMaxBytes, positive_pos gives.retentionDays, List.forall_mem_nil _⟩

section Reliance

variable {s : Settings}

theorem Settings.AreInRange.takes (ranges : s.AreInRange) (g : Quota.Guard) (client : Text) (now roll : Number) :
    g.Takes ⟨client, s.generationWindow, s.generationLimit, now, roll⟩ ∧
      g.Takes ⟨client, s.compileWindow, s.compileLimit, now, roll⟩ := by
  have positive := ranges.amounts
  simp only [Settings.amounts, List.forall_mem_cons] at positive
  obtain ⟨-, -, -, generationLimit, compileLimit, generationWindow, compileWindow, -⟩ := positive
  exact ⟨g.takes_of_isPositive ⟨generationWindow, generationLimit⟩, g.takes_of_isPositive ⟨compileWindow, compileLimit⟩⟩

theorem Settings.AreInRange.ceiling_eq (ranges : s.AreInRange) :
    Generation.ceiling s.maxAttempts = .ok s.maxAttempts := by
  have positive := ranges.amounts s.maxAttempts List.mem_cons_self
  exact if_neg (Int.not_lt.mpr positive)

/-- No crew is refused for want of attempts. -/
theorem Settings.AreInRange.crew_failsOnly (ranges : s.AreInRange) (e : Environment) :
    FailsOnly (fun fault => ∃ missing, fault = .model missing) (Generation.Crew.ofSettings s e) := by
  have model (name : Text) : FailsOnly (fun fault => ∃ missing, fault = .model missing)
      ((Generation.Model.ofProvider s.provider s e name).mapError Generation.CrewError.model) := by
    cases Generation.Model.ofProvider s.provider s e name with
    | error missing => exact .error ⟨missing, rfl⟩
    | ok m => exact .ok m
  unfold Generation.Crew.ofSettings
  rw [ranges.ceiling_eq]
  refine .bind (model _) fun coder _ => .bind ?_ fun titler _ => .ok _
  split
  · exact .ok coder
  · exact model _

end Reliance

/-- Settings are refused for something that is wrong with the environment, or else nothing is wrong with it and they
are in range everywhere. Then both quotas take every request, and there is an attempt to be made. -/
theorem settings_refused_or_inRange (e : Environment) :
    (∃ fault, e.settings = .error fault ∧ e.IsFaulty fault) ∨
      ∃ s, e.settings = .ok s ∧ (∀ fault, ¬e.IsFaulty fault) ∧ s.AreInRange ∧
        (∀ (g : Quota.Guard) client now roll,
          g.Takes ⟨client, s.generationWindow, s.generationLimit, now, roll⟩ ∧
            g.Takes ⟨client, s.compileWindow, s.compileLimit, now, roll⟩) ∧
        Generation.ceiling s.maxAttempts = .ok s.maxAttempts ∧
        ∀ e' fault, Generation.Crew.ofSettings s e' ≠ .error (.plan fault) := by
  cases loaded : e.settings with
  | error fault => exact .inl ⟨fault, rfl, Environment.failsOnly_settings e fault loaded⟩
  | ok s =>
    have gives := Environment.gives_of_settings loaded
    have ranges := gives.areInRange
    refine .inr ⟨s, rfl, gives.not_isFaulty, ranges, ranges.takes, ranges.ceiling_eq, ?_⟩
    intro e' fault refused
    obtain ⟨missing, other⟩ := ranges.crew_failsOnly e' _ refused
    cases other

end LessonService
