/-!
What a recorder and its transport say about themselves while they work. Each
remark has a fixed message and named fields; none of them changes what is done.
-/

namespace Telemetry

inductive Diagnostic
  | recorderCreated (transport : String) (maxLogRecords maxSpanRecords : Nat)
      (identityKnown : Bool)
  | identitySet (guid : String)
  | payloadRejected (error : String)
  | flushing (logs spans : Nat) (oldestMicros youngestMicros : Int)
  | deliveryFailed (error transport : String)
  | collectorError (error : String)
  | disableRequested
  | connectionOpened (address : String) (attempt : Nat)
  | connectFailed (address : String) (attempt : Nat) (error : String)
  | collectorClosed
  | socketWrite (written sent total : Nat)
  | sendFailed (error : String)
  | acknowledged (commands errors : Nat)
  | exchangeFailed (error : String)
  deriving DecidableEq, Repr

namespace Diagnostic

/-- A field's value; instants are kept apart from other numbers. -/
inductive Value
  | text (s : String)
  | count (n : Nat)
  | flag (b : Bool)
  | instant (micros : Int)
  deriving DecidableEq, Repr

inductive Severity
  | debug
  | trace
  deriving DecidableEq, Repr

def Severity.name : Severity → String
  | .debug => "DEBUG"
  | .trace => "TRACE"

/-- Single writes are told at the finer grade, all else at the coarser. -/
def severity : Diagnostic → Severity
  | .socketWrite _ _ _ => .trace
  | _ => .debug

def message : Diagnostic → String
  | .recorderCreated .. => "runtime created"
  | .identitySet .. => "runtime identity set"
  | .payloadRejected .. => "log payload rejected"
  | .flushing .. => "flushing report"
  | .deliveryFailed .. => "report delivery failed"
  | .collectorError .. => "collector reported an error"
  | .disableRequested => "collector requested disable"
  | .connectionOpened .. => "collector connection opened"
  | .connectFailed .. => "collector connect failed"
  | .collectorClosed => "collector closed the persistent connection, reconnecting"
  | .socketWrite .. => "socket write"
  | .sendFailed .. => "report send failed"
  | .acknowledged .. => "report acknowledged"
  | .exchangeFailed .. => "report exchange failed, discarding worker"

def fields : Diagnostic → List (String × Value)
  | .recorderCreated transport maxLogs maxSpans known =>
    [("transport", .text transport), ("max_log_records", .count maxLogs),
      ("max_span_records", .count maxSpans), ("identity_set", .flag known)]
  | .identitySet guid => [("guid", .text guid)]
  | .payloadRejected error => [("error", .text error)]
  | .flushing logs spans oldest youngest =>
    [("logs", .count logs), ("spans", .count spans), ("oldest_micros", .instant oldest),
      ("youngest_micros", .instant youngest)]
  | .deliveryFailed error transport => [("error", .text error), ("transport", .text transport)]
  | .collectorError error => [("error", .text error)]
  | .disableRequested => []
  | .connectionOpened address attempt => [("addr", .text address), ("attempt", .count attempt)]
  | .connectFailed address attempt error =>
    [("addr", .text address), ("attempt", .count attempt), ("error", .text error)]
  | .collectorClosed => []
  | .socketWrite written sent total =>
    [("written", .count written), ("sent", .count sent), ("total", .count total)]
  | .sendFailed error => [("error", .text error)]
  | .acknowledged commands errors => [("commands", .count commands), ("errors", .count errors)]
  | .exchangeFailed error => [("error", .text error)]

end Diagnostic

end Telemetry
