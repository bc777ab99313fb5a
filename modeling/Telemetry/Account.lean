import Telemetry.Recorder

/-!
The account of a recorder: how many records it was given, seen from the other
side. A record is in a report that is settled, or it is still held, or a counter
tells that it was given up; the counter has gone out with a report or is still
being kept.
-/

namespace Telemetry

/-- The value of the counters of this name in a report. -/
def Report.counted (report : Report) (name : String) : Int :=
  ((report.counters.filter (·.name = name)).map (·.value)).foldr (· + ·) 0

/-- A report is settled unless it failed and its records went back to be sent
again. A panic settles it. -/
def Delivery.isSettled (guarantee : DeliveryGuarantee) (delivery : Delivery) : Bool :=
  match delivery.answer, guarantee with
  | .settled (.failed _), .retainUntilAcknowledged => false
  | _, _ => true

/-- Numbers of records by kind. -/
structure Account where
  logs : Int := 0
  spans : Int := 0
  deriving DecidableEq, Repr

namespace Account

def add (a b : Account) : Account :=
  ⟨a.logs + b.logs, a.spans + b.spans⟩

/-- The records that a report carries and those that its counters tell of. -/
def ofReport (report : Report) : Account where
  logs := report.logRecords.length + report.counted droppedLogs
  spans := report.spanRecords.length + report.counted droppedSpans

def ofReports (reports : List Report) : Account :=
  (reports.map ofReport).foldl add {}

/-- The records that a recorder holds and those that its counters tell of. -/
def ofRecorder {σ : Type} (r : Recorder σ) : Account where
  logs := r.logs.length + r.counters.logs
  spans := r.spans.length + r.counters.spans

/-- The account of a recorder and of everything it has delivered so far. -/
def balance {σ : Type} (r : Recorder σ) (deliveries : List Delivery) : Account :=
  (ofReports ((deliveries.filter (·.isSettled r.guarantee)).map (·.report))).add (ofRecorder r)

end Account

/-- The window of a report does not end before it starts. -/
def Report.isOrdered (report : Report) : Bool :=
  report.oldestMicros ≤ report.youngestMicros

/-- Each window starts where the one before it ends. -/
def Report.tile : List Report → Bool
  | a :: b :: rest => a.youngestMicros = b.oldestMicros && tile (b :: rest)
  | [_] => true
  | [] => true

end Telemetry
