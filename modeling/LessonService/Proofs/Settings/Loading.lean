import LessonService.Settings

namespace LessonService

theorem Except.bind_eq_ok {ε α β : Type} {x : Except ε α} {f : α → Except ε β} {b : β} (ran : (x >>= f) = .ok b) :
    ∃ a, x = .ok a ∧ f a = .ok b := by
  cases x with
  | error e => cases ran
  | ok a => exact ⟨a, rfl, ran⟩

theorem Except.map_eq_ok {ε α β : Type} {x : Except ε α} {f : α → β} {b : β} (ran : x.map f = .ok b) :
    ∃ a, x = .ok a ∧ f a = b := by
  cases x with
  | error e => cases ran
  | ok a => exact ⟨a, rfl, Except.ok.inj ran⟩

/-- Whether a calculation fails only in ways for which a condition holds. -/
def FailsOnly {ε α : Type} (holds : ε → Prop) (x : Except ε α) : Prop := ∀ e, x = .error e → holds e

namespace FailsOnly

variable {ε α β : Type} {holds : ε → Prop}

theorem ok (a : α) : FailsOnly holds (.ok a) := nofun

theorem error {e : ε} (known : holds e) : FailsOnly holds (.error e : Except ε α) := by
  intro e' same
  cases same
  exact known

theorem bind {x : Except ε α} {f : α → Except ε β} (first : FailsOnly holds x)
    (later : ∀ a, x = .ok a → FailsOnly holds (f a)) : FailsOnly holds (x >>= f) := by
  cases x with
  | error e => exact error (first e rfl)
  | ok a => exact later a rfl

end FailsOnly

/-- The spans of time that settings choose: the duplicate window, the time for a lesson and the days of retention. -/
def Settings.spans (s : Settings) : Int × Int × Int := (s.duplicateWindow, s.generationTimeout, s.retentionDays)

namespace Environment

variable {e : Environment} {name : Text} {standard n : Int}

theorem positive_pos (read : e.positive name standard = .ok n) : 0 < n := by
  obtain ⟨m, -, checked⟩ := Except.bind_eq_ok read
  split at checked
  · cases checked
  · rename_i positive
    cases checked
    exact Int.not_le.mp positive

/-- The settings that have been read from an environment, by the variables that can be wrong. -/
structure Gives (e : Environment) (s : Settings) : Prop where
  logMaxBytes : e.positive "LESSONFORGE_LOG_MAX_BYTES" 5242880 = .ok s.logMaxBytes
  logBackupCount : e.backupCount = .ok s.logBackupCount
  provider : e.provider = .ok s.provider
  maxAttempts : e.positive "LESSONFORGE_MAX_GENERATION_ATTEMPTS" 3 = .ok s.maxAttempts
  generationTimeout : e.positive "LESSONFORGE_GENERATION_TIMEOUT_SECONDS" 600 = .ok s.generationTimeout
  cleanupProbability : e.cleanupProbability = .ok s.cleanupProbability
  codeLimits : e.codeLimits = .ok (s.compileMaxChars, s.compileMinChars)
  allowedOrigins : e.origins = .ok s.allowedOrigins
  connectTimeout : e.connectTimeout = .ok s.connectTimeout
  generationLimit : e.positive "LESSONFORGE_GENERATION_RATE_LIMIT" 5 = .ok s.generationLimit
  generationWindow : e.positive "LESSONFORGE_GENERATION_RATE_WINDOW_MS" 60000 = .ok s.generationWindow
  compileLimit : e.positive "LESSONFORGE_COMPILE_RATE_LIMIT" 30 = .ok s.compileLimit
  compileWindow : e.positive "LESSONFORGE_COMPILE_RATE_WINDOW_MS" 60000 = .ok s.compileWindow
  duplicateWindow : e.positive "LESSONFORGE_DUPLICATE_WINDOW_SECONDS" 300 = .ok s.duplicateWindow
  retentionDays : e.positive "LESSONFORGE_FAILED_RETENTION_DAYS" 7 = .ok s.retentionDays

theorem gives_of_settings {s : Settings} (loaded : e.settings = .ok s) : e.Gives s := by
  unfold settings at loaded
  obtain ⟨_, logMaxBytes, loaded⟩ := Except.bind_eq_ok loaded
  obtain ⟨_, logBackupCount, loaded⟩ := Except.bind_eq_ok loaded
  obtain ⟨_, provider, loaded⟩ := Except.bind_eq_ok loaded
  obtain ⟨_, maxAttempts, loaded⟩ := Except.bind_eq_ok loaded
  obtain ⟨_, generationTimeout, loaded⟩ := Except.bind_eq_ok loaded
  obtain ⟨_, cleanupProbability, loaded⟩ := Except.bind_eq_ok loaded
  obtain ⟨⟨_, _⟩, codeLimits, loaded⟩ := Except.bind_eq_ok loaded
  obtain ⟨_, allowedOrigins, loaded⟩ := Except.bind_eq_ok loaded
  obtain ⟨_, connectTimeout, loaded⟩ := Except.bind_eq_ok loaded
  obtain ⟨_, generationLimit, loaded⟩ := Except.bind_eq_ok loaded
  obtain ⟨_, generationWindow, loaded⟩ := Except.bind_eq_ok loaded
  obtain ⟨_, compileLimit, loaded⟩ := Except.bind_eq_ok loaded
  obtain ⟨_, compileWindow, loaded⟩ := Except.bind_eq_ok loaded
  obtain ⟨_, duplicateWindow, loaded⟩ := Except.bind_eq_ok loaded
  obtain ⟨_, retentionDays, loaded⟩ := Except.bind_eq_ok loaded
  cases loaded
  exact {
    logMaxBytes, logBackupCount, provider, maxAttempts, generationTimeout, cleanupProbability, codeLimits
    allowedOrigins, connectTimeout, generationLimit, generationWindow, compileLimit, compileWindow, duplicateWindow
    retentionDays }

theorem exists_of_spans {window timeout days : Int} (read : e.settings.map Settings.spans = .ok (window, timeout, days)) :
    ∃ s, e.settings = .ok s ∧ s.duplicateWindow = window ∧ s.generationTimeout = timeout ∧ s.retentionDays = days := by
  obtain ⟨s, loaded, chosen⟩ := Except.map_eq_ok read
  simp only [Settings.spans, Prod.mk.injEq] at chosen
  exact ⟨s, loaded, chosen⟩

end Environment

end LessonService
