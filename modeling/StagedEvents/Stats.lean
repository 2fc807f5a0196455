import StagedEvents.Quantity.Double
import StagedEvents.Stats.Window

/-!
# Measurements of one stage

Counters of what a stage let in, refused and handled, the latest batch times,
and a smoothed number of events per second. The counters are 64-bit words and
start again at zero after the largest.
-/

namespace StagedEvents

/-- How many batch times a window keeps unless told otherwise. -/
def responseTimeWindow : Nat := 1000

/-- The weight of the earlier value when the service rate is smoothed. -/
def serviceRateSmoothing : Float := 0.7

/-- What has been measured of one stage. Model of `StageStats`. -/
structure Stats where
  processed : UInt64
  batches : UInt64
  failures : UInt64
  admitted : UInt64
  rejected : UInt64
  /-- Smoothed events per second. -/
  serviceRate : Float
  times : Window

namespace Stats

/-- No measurements yet, with a window for batch times. -/
def withTimes (times : Window) : Stats :=
  { processed := 0, batches := 0, failures := 0, admitted := 0, rejected := 0,
    serviceRate := 0.0, times }

/-- No measurements yet, with a window of the given size, unless that is too large. Model of
    `StageStats::with_window`. -/
def withWindow? (size : Nat) : Except Fault Stats := (Window.new? size).map withTimes

/-- No measurements yet. Model of `StageStats::new`. -/
def new : Stats := withTimes (.empty responseTimeWindow)

/-- The service rate after a batch of `count` events took `elapsed`, which counts as
    at least a microsecond. The first batch sets the rate, later ones smooth it. -/
def nextServiceRate (s : Stats) (count : Nat) (elapsed : Span) : Float :=
  let measured : Span := ⟨max elapsed.nanos 1000⟩
  let sample := Float.ofNat count / measured.seconds
  if s.batches = 0 then sample
  else serviceRateSmoothing * s.serviceRate + (1.0 - serviceRateSmoothing) * sample

/-- One more batch of `count` events that took `elapsed`. Model of
    `StageStats::record_service_rate`. -/
def recordBatch (count : Nat) (elapsed : Span) (s : Stats) : Stats :=
  { s with
    processed := s.processed + UInt64.ofNat count
    batches := s.batches + 1
    times := s.times.record (elapsed.nanos % UInt64.size)
    serviceRate := s.nextServiceRate count elapsed }

/-- One more failed batch. Model of `StageStats::record_handler_failure`. -/
def recordFailure (s : Stats) : Stats := { s with failures := s.failures + 1 }

/-- `count` more events let in. Model of `StageStats::record_admitted`. -/
def recordAdmitted (count : Nat) (s : Stats) : Stats :=
  { s with admitted := s.admitted + UInt64.ofNat count }

/-- `count` more events refused. Model of `StageStats::record_rejected`. -/
def recordRejected (count : Nat) (s : Stats) : Stats :=
  { s with rejected := s.rejected + UInt64.ofNat count }

/-- `count` more events let in or refused. -/
def recordOffer (count : Nat) (accepted : Bool) (s : Stats) : Stats :=
  if accepted then s.recordAdmitted count else s.recordRejected count

/-- How many batch times are held. Model of `StageStats::sample_count`. -/
def samples (s : Stats) : Nat := s.times.count

/-- The batch time at percentile `p`. Model of `StageStats::response_time_percentile`. -/
def percentile (s : Stats) (p : Float) : Span := s.times.percentile p

/-- The batch time that nine tenths do not exceed: what a controller goes by. Model of
    `StageStats::ninetieth_response_time`. -/
def ninetieth (s : Stats) : Span := s.percentile 0.90

end Stats

end StagedEvents
