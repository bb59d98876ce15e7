import LessonService.Failure
import LessonService.Settings
import LessonService.Store

namespace LessonService.Maintenance

structure Report where
  stuckFailed : Nat
  failedDeleted : Nat
deriving DecidableEq

/-- The times before which lessons are stuck, and before which failed lessons are removed. -/
structure Cutoffs where
  stuck : Instant
  failed : Instant

def cutoffs (settings : Settings) (now : Instant) : Except TimeError Cutoffs := do
  let stuck ← now.minusSeconds settings.generationTimeout
  let failed ← now.minusDays settings.retentionDays
  return ⟨stuck, failed⟩

def sweepAt (timeout : Int) (c : Cutoffs) (clock : Instant) (s : Store) : Report × Store :=
  let (stuck, s) := s.failStuck clock c.stuck (PipelineError.timeoutExceeded timeout).message
  let (deleted, s) := s.deleteFailed c.failed
  (⟨stuck, deleted⟩, s)

/-- Sweeps for some time, with the clock of the store at another. -/
def sweep (settings : Settings) (now clock : Instant) (s : Store) : Except TimeError (Report × Store) :=
  (cutoffs settings now).map fun c => sweepAt settings.generationTimeout c clock s

end LessonService.Maintenance
