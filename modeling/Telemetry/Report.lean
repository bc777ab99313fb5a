/-!
What is reported: log records and span records in a window of time, with the
process they come from, the drop counters, and the collector's answer. Times are
microseconds since the epoch. Times and counts are integers; the formats carry
them in 64 bits.
-/

namespace Telemetry

inductive Level
  | info | warn | error | fatal
  deriving DecidableEq, Repr

namespace Level

def code : Level → String
  | .info => "I"
  | .warn => "W"
  | .error => "E"
  | .fatal => "F"

def isError : Level → Bool
  | .error | .fatal => true
  | .info | .warn => false

def all : List Level :=
  [.info, .warn, .error, .fatal]

def index : Level → Nat
  | .info => 0
  | .warn => 1
  | .error => 2
  | .fatal => 3

def ofIndex? (n : Nat) : Option Level :=
  all[n]?

/-- Levels under the names that the text format gives them. -/
def variants : List (String × Level) :=
  all.map fun level => (level.code, level)

end Level

/-- An empty `runtimeGuid` is one that was not known when the record was made. -/
structure LogRecord where
  timestampMicros : Int
  runtimeGuid : String
  spanGuid : Option String
  level : Level
  errorFlag : Bool
  message : String
  payloadJson : Option String
  deriving DecidableEq, Repr

structure JoinId where
  traceKey : String
  value : String
  deriving DecidableEq, Repr

structure Attribute where
  key : String
  value : String
  deriving DecidableEq, Repr

structure SpanRecord where
  runtimeGuid : String
  spanGuid : String
  spanName : String
  oldestMicros : Int
  youngestMicros : Int
  joinIds : List JoinId
  attributes : List Attribute
  errorFlag : Bool
  deriving DecidableEq, Repr

structure NamedCounter where
  name : String
  value : Int
  deriving DecidableEq, Repr

structure Origin where
  guid : String
  startMicros : Int
  groupName : String
  deriving DecidableEq, Repr

structure Auth where
  accessToken : String
  deriving DecidableEq, Repr

structure Report where
  origin : Origin
  oldestMicros : Int
  youngestMicros : Int
  logRecords : List LogRecord
  spanRecords : List SpanRecord
  counters : List NamedCounter
  deriving DecidableEq, Repr

/-- One report as it is sent: the method it is meant for, its number, and who
sends it. -/
structure Call where
  method : String
  seqId : UInt32
  auth : Auth
  report : Report
  deriving DecidableEq, Repr

structure Command where
  disable : Bool
  deriving DecidableEq, Repr

structure Response where
  commands : List Command
  errors : List String
  deriving DecidableEq, Repr

def Response.requestsDisable (response : Response) : Bool :=
  response.commands.any (·.disable)

/-- The method under which reports are sent. -/
def reportMethod : String := "Report"

end Telemetry
