import LessonService.Json
import LessonService.Settings

namespace LessonService

namespace DatabaseSettings

def toJson (s : DatabaseSettings) : Json :=
  let fields : List (Text × Json) := [
    ("debug", .flag s.debug), ("pg_dsn", Json.ofOption .text s.dsn), ("pg_connect_timeout", Json.ofInt s.connectTimeout)]
  .record fields

end DatabaseSettings

namespace Settings

def toJson (s : Settings) : Json :=
  let fields : List (Text × Json) := [
    ("environment", .text s.environment), ("allowed_origins", .list (s.allowedOrigins.map Json.text)),
    ("debug", .flag s.debug), ("log_max_bytes", Json.ofInt s.logMaxBytes),
    ("log_backup_count", Json.ofInt s.logBackupCount), ("log_http_4xx", .flag s.logsClientErrors),
    ("pg_dsn", Json.ofOption .text s.dsn), ("pg_connect_timeout", Json.ofInt s.connectTimeout),
    ("gemini_api_key", Json.ofOption .text s.geminiKey), ("openrouter_api_key", Json.ofOption .text s.openRouterKey),
    ("model_provider", .text s.provider.name), ("generation_model", .text s.generationModel),
    ("title_model", .text s.titleModel), ("max_generation_attempts", Json.ofInt s.maxAttempts),
    ("generation_timeout_seconds", Json.ofInt s.generationTimeout),
    ("generation_rate_limit", Json.ofInt s.generationLimit),
    ("generation_rate_window_ms", Json.ofInt s.generationWindow), ("compile_rate_limit", Json.ofInt s.compileLimit),
    ("compile_rate_window_ms", Json.ofInt s.compileWindow),
    ("quota_cleanup_probability", .number (.real s.cleanupProbability)),
    ("duplicate_window_seconds", Json.ofInt s.duplicateWindow), ("compile_max_chars", Json.ofInt s.compileMaxChars),
    ("compile_min_chars", Json.ofInt s.compileMinChars), ("failed_retention_days", Json.ofInt s.retentionDays),
    ("sandbox_react_url", .text s.reactUrl), ("sandbox_react_dom_url", .text s.reactDomUrl),
    ("sandbox_tailwind_url", .text s.tailwindUrl)]
  .record fields

end Settings

end LessonService
