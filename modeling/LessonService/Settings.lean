import LessonService.Number
import LessonService.Settings.Environment
import LessonService.Text.Literal

namespace LessonService

/-- Who makes the models. -/
inductive Provider where
  | gemini
  | openRouter
deriving DecidableEq

def Provider.name : Provider → Text
  | gemini => "gemini"
  | openRouter => "openrouter"

def Provider.ofName? (t : Text) : Option Provider :=
  [gemini, openRouter].find? fun p => p.name = t

def Provider.defaultModel : Provider → Text
  | gemini => "gemini-2.0-flash"
  | openRouter => "google/gemini-2.0-flash-001"

/-- How the store is reached. -/
structure DatabaseSettings where
  debug : Bool
  dsn : Option Text
  connectTimeout : Int

/-- Settings, which are read from the environment. Reading them gives a value that is in range everywhere, or the first
fault in the order in which the variables are looked at. -/
structure Settings where
  environment : Text
  allowedOrigins : List Text
  debug : Bool
  logMaxBytes : Int
  logBackupCount : Int
  logsClientErrors : Bool
  dsn : Option Text
  connectTimeout : Int
  geminiKey : Option Text
  openRouterKey : Option Text
  provider : Provider
  generationModel : Text
  titleModel : Text
  maxAttempts : Int
  generationTimeout : Int
  generationLimit : Int
  generationWindow : Int
  compileLimit : Int
  compileWindow : Int
  cleanupProbability : Double
  duplicateWindow : Int
  compileMaxChars : Int
  compileMinChars : Int
  retentionDays : Int
  reactUrl : Text
  reactDomUrl : Text
  tailwindUrl : Text

namespace Settings

/-- The variables of the environment that hold settings. -/
def variableNames : List String := [
  "LESSONFORGE_LOG_MAX_BYTES", "LESSONFORGE_LOG_BACKUP_COUNT", "LESSONFORGE_MODEL_PROVIDER",
  "LESSONFORGE_MAX_GENERATION_ATTEMPTS", "LESSONFORGE_GENERATION_TIMEOUT_SECONDS",
  "LESSONFORGE_QUOTA_CLEANUP_PROBABILITY", "LESSONFORGE_COMPILE_MAX_CHARS", "LESSONFORGE_COMPILE_MIN_CHARS",
  "LESSONFORGE_ALLOWED_ORIGINS", "LESSONFORGE_PG_CONNECT_TIMEOUT", "LESSONFORGE_GENERATION_RATE_LIMIT",
  "LESSONFORGE_GENERATION_RATE_WINDOW_MS", "LESSONFORGE_COMPILE_RATE_LIMIT", "LESSONFORGE_COMPILE_RATE_WINDOW_MS",
  "LESSONFORGE_DUPLICATE_WINDOW_SECONDS", "LESSONFORGE_FAILED_RETENTION_DAYS", "LESSONFORGE_ENV",
  "LESSONFORGE_DEBUG", "LESSONFORGE_LOG_HTTP_4XX", "LESSONFORGE_PG_DSN", "DATABASE_URL", "GEMINI_API_KEY",
  "OPENROUTER_API_KEY", "LESSONFORGE_GENERATION_MODEL", "LESSONFORGE_TITLE_MODEL", "LESSONFORGE_SANDBOX_REACT_URL",
  "LESSONFORGE_SANDBOX_REACT_DOM_URL", "LESSONFORGE_SANDBOX_TAILWIND_URL"]

def standardReactUrl : Text := "https://unpkg.com/react@18.3.1/umd/react.production.min.js"

def standardReactDomUrl : Text := "https://unpkg.com/react-dom@18.3.1/umd/react-dom.production.min.js"

def standardTailwindUrl : Text := "https://cdn.tailwindcss.com/3.4.16"

/-- Whether it is known how the store is reached. -/
def hasStore (s : Settings) : Bool := s.dsn.elim false fun dsn => !dsn.isEmpty

end Settings

inductive SettingsError where
  | notWhole (value : Text)
  | tooManyDigits (count : Nat)
  | notPositive (name : Text)
  | negativeBackupCount
  | unknownProvider
  | notFraction (value : Text)
  | probabilityOutOfRange
  | limitsCrossed
  | originsUnset
  | originsEmpty
  | originsOpen
deriving DecidableEq

def SettingsError.message : SettingsError → Text
  | notWhole value =>
    "invalid literal for int() with base 10: " ++ (Literal.encode value).take 200
  | tooManyDigits count => Decimal.longText count
  | notPositive name => name ++ " must be a positive integer."
  | negativeBackupCount => "LESSONFORGE_LOG_BACKUP_COUNT must be zero or a positive integer."
  | unknownProvider => "LESSONFORGE_MODEL_PROVIDER must be 'gemini' or 'openrouter'."
  | notFraction value => "could not convert string to float: " ++ Literal.encode value
  | probabilityOutOfRange => "LESSONFORGE_QUOTA_CLEANUP_PROBABILITY must be between 0 and 1."
  | limitsCrossed => "LESSONFORGE_COMPILE_MIN_CHARS must be smaller than LESSONFORGE_COMPILE_MAX_CHARS."
  | originsUnset => "LESSONFORGE_ALLOWED_ORIGINS must be set to one or more origins."
  | originsEmpty => "LESSONFORGE_ALLOWED_ORIGINS must include at least one origin."
  | originsOpen => "LESSONFORGE_ALLOWED_ORIGINS must not include wildcard origins."

namespace Environment

/-- A variable that holds a whole number. -/
def whole (e : Environment) (name : Text) (standard : Int) : Except SettingsError Int :=
  match e.get? name with
  | none => .ok standard
  | some value =>
    match Decimal.whole value with
    | .ok n => .ok n
    | .error .malformed => .error (.notWhole value)
    | .error (.tooLong count) => .error (.tooManyDigits count)

def positive (e : Environment) (name : Text) (standard : Int) : Except SettingsError Int := do
  let n ← e.whole name standard
  if n ≤ 0 then .error (.notPositive name) else return n

def flag (e : Environment) (name : Text) : Bool :=
  (e.get? name).elim false fun value =>
    (["1", "true", "yes", "on"] : List Text).contains (Text.lower (Text.trim value))

/-- The value without blanks around it. -/
def trimmed (e : Environment) (name standard : Text) : Text := Text.trim ((e.filled? name).getD standard)

/-- The value without blanks around it, if anything is left of it. -/
def key? (e : Environment) (name : Text) : Option Text :=
  (e.get? name).bind fun value => if Text.isBlank value then none else some (Text.trim value)

def origins (e : Environment) : Except SettingsError (List Text) :=
  match e.filled? "LESSONFORGE_ALLOWED_ORIGINS" with
  | none => .error .originsUnset
  | some value =>
    let all := ((Text.splitOn ',' value).map Text.trim).filter fun o => !o.isEmpty
    if all.isEmpty then .error .originsEmpty
    else if all.contains ("*" : Text) then .error .originsOpen
    else .ok all

def backupCount (e : Environment) : Except SettingsError Int := do
  let n ← e.whole "LESSONFORGE_LOG_BACKUP_COUNT" 10
  if n < 0 then .error .negativeBackupCount else return n

def provider (e : Environment) : Except SettingsError Provider :=
  match Provider.ofName? (Text.lower (e.trimmed "LESSONFORGE_MODEL_PROVIDER" "gemini")) with
  | some p => .ok p
  | none => .error .unknownProvider

def cleanupProbability (e : Environment) : Except SettingsError Double :=
  let value := (e.get? "LESSONFORGE_QUOTA_CLEANUP_PROBABILITY").getD "0.01"
  match Decimal.double? value with
  | none => .error (.notFraction value)
  | some x =>
    match x.value? with
    | some q => if 0 ≤ q && q ≤ 1 then .ok x else .error .probabilityOutOfRange
    | none => .error .probabilityOutOfRange

/-- How long and how short code may be. -/
def codeLimits (e : Environment) : Except SettingsError (Int × Int) := do
  let most ← e.positive "LESSONFORGE_COMPILE_MAX_CHARS" 500000
  let least ← e.positive "LESSONFORGE_COMPILE_MIN_CHARS" 100
  if least ≥ most then .error .limitsCrossed else return (most, least)

def dsn? (e : Environment) : Option Text :=
  match e.filled? "LESSONFORGE_PG_DSN" with
  | some dsn => some dsn
  | none => e.get? "DATABASE_URL"

def connectTimeout (e : Environment) : Except SettingsError Int := e.positive "LESSONFORGE_PG_CONNECT_TIMEOUT" 5

def databaseSettings (e : Environment) : Except SettingsError DatabaseSettings := do
  let timeout ← e.connectTimeout
  return ⟨e.flag "LESSONFORGE_DEBUG", e.dsn?, timeout⟩

def settings (e : Environment) : Except SettingsError Settings := do
  let logMaxBytes ← e.positive "LESSONFORGE_LOG_MAX_BYTES" 5242880
  let logBackupCount ← e.backupCount
  let provider ← e.provider
  let maxAttempts ← e.positive "LESSONFORGE_MAX_GENERATION_ATTEMPTS" 3
  let generationTimeout ← e.positive "LESSONFORGE_GENERATION_TIMEOUT_SECONDS" 600
  let cleanupProbability ← e.cleanupProbability
  let (compileMaxChars, compileMinChars) ← e.codeLimits
  let allowedOrigins ← e.origins
  let connectTimeout ← e.connectTimeout
  let generationLimit ← e.positive "LESSONFORGE_GENERATION_RATE_LIMIT" 5
  let generationWindow ← e.positive "LESSONFORGE_GENERATION_RATE_WINDOW_MS" 60000
  let compileLimit ← e.positive "LESSONFORGE_COMPILE_RATE_LIMIT" 30
  let compileWindow ← e.positive "LESSONFORGE_COMPILE_RATE_WINDOW_MS" 60000
  let duplicateWindow ← e.positive "LESSONFORGE_DUPLICATE_WINDOW_SECONDS" 300
  let retentionDays ← e.positive "LESSONFORGE_FAILED_RETENTION_DAYS" 7
  return {
    environment := Text.lower ((e.get? "LESSONFORGE_ENV").getD "development")
    debug := e.flag "LESSONFORGE_DEBUG"
    logsClientErrors := e.flag "LESSONFORGE_LOG_HTTP_4XX"
    dsn := e.dsn?
    geminiKey := e.key? "GEMINI_API_KEY"
    openRouterKey := e.key? "OPENROUTER_API_KEY"
    generationModel := e.trimmed "LESSONFORGE_GENERATION_MODEL" provider.defaultModel
    titleModel := e.trimmed "LESSONFORGE_TITLE_MODEL" provider.defaultModel
    reactUrl := e.trimmed "LESSONFORGE_SANDBOX_REACT_URL" Settings.standardReactUrl
    reactDomUrl := e.trimmed "LESSONFORGE_SANDBOX_REACT_DOM_URL" Settings.standardReactDomUrl
    tailwindUrl := e.trimmed "LESSONFORGE_SANDBOX_TAILWIND_URL" Settings.standardTailwindUrl
    logMaxBytes, logBackupCount, provider, maxAttempts, generationTimeout, cleanupProbability, compileMaxChars
    compileMinChars, allowedOrigins, connectTimeout, generationLimit, generationWindow, compileLimit
    compileWindow, duplicateWindow, retentionDays }

end Environment

end LessonService
