import ApiProxy.OutputFormat
import ApiProxy.Run

/-!
# Reports

The summary of a run as it is shown: an object with the time at which the run was finished and,
if it generated, the time at which it was started.
-/

namespace ApiProxy

/-- When a run was started and finished, in words. -/
structure RunTimes where
  started : String
  finished : String
deriving DecidableEq, Repr

/-- The report of a run that generates. -/
def GenerationSummary.report (t : RunTimes) (s : GenerationSummary) : Json :=
  .object
    [ ("module", .string s.moduleName), ("output", .string s.output),
      ("controllers", .ofInt s.controllers), ("dtos", .ofInt s.dataTypes),
      ("written", .ofStrings s.written), ("skipped", .ofStrings s.skipped),
      ("artifact", .string s.artifact), ("started_at", .string t.started),
      ("completed_at", .string t.finished) ]

/-- The report of a run that removes. -/
def RemovalSummary.report (t : RunTimes) (s : RemovalSummary) : Json :=
  .object
    [ ("output", .string s.output), ("removed", .bool s.removed),
      ("completed_at", .string t.finished) ]

end ApiProxy
