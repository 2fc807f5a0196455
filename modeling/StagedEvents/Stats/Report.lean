import StagedEvents.Number.Fixed
import StagedEvents.Stats

/-!
# A line about the measurements

The measurements of one stage at one moment, and their line of text. Rates and
times are written with two decimals, batch times in milliseconds and the elapsed
time in seconds.
-/

namespace StagedEvents

/-- The measurements of a stage at one moment. Model of `StatsSnapshot`. -/
structure Report where
  processed : Nat
  batches : Nat
  failures : Nat
  admitted : Nat
  rejected : Nat
  serviceRate : Float
  p50 : Span
  p90 : Span
  p99 : Span
  /-- Time since the stage was made. -/
  elapsed : Span

namespace Report

/-- The report of the measurements after `elapsed`. Model of `StageStats::snapshot`. -/
def ofStats (s : Stats) (elapsed : Span) : Report :=
  { processed := s.processed.toNat, batches := s.batches.toNat, failures := s.failures.toNat,
    admitted := s.admitted.toNat, rejected := s.rejected.toNat, serviceRate := s.serviceRate,
    p50 := s.percentile 0.50, p90 := s.ninetieth, p99 := s.percentile 0.99, elapsed }

/-- Two decimals are shown. -/
def places : Nat := 2

/-- A time in milliseconds. -/
def millisText (s : Span) : String := fixedText places (s.seconds * 1000.0) ++ "ms"

/-- The report on one line. Model of `StatsSnapshot::format`. -/
def text (r : Report) : String :=
  "Processed: " ++ toString r.processed ++ " in " ++ toString r.batches ++ " batches, Failures: "
    ++ toString r.failures ++ ", Admitted: " ++ toString r.admitted ++ ", Rejected: "
    ++ toString r.rejected ++ ", Service rate: " ++ fixedText places r.serviceRate
    ++ " ev/s, RT P50: " ++ millisText r.p50 ++ ", P90: " ++ millisText r.p90 ++ ", P99: "
    ++ millisText r.p99 ++ ", Elapsed: " ++ fixedText places r.elapsed.seconds ++ "s"

end Report

end StagedEvents
