import Telemetry.Buffer
import Telemetry.Delivery
import Telemetry.Options
import Telemetry.Payload
import Telemetry.Span

/-!
A recorder: two bounded buffers, the counters of what they gave up, the window
of the next report, and a transport. There is nobody who flushes in the
background; each call that adds a record looks whether a flush is due and does
it at once. Every function here is one step that no other step interrupts.

Readings of the clock are arguments, because a clock may stand still or go back.
What a step does to the outside is its trace.
-/

namespace Telemetry

/-- Records given up since the last report, by kind. -/
structure DropCounters where
  logs : Int := 0
  spans : Int := 0
  deriving DecidableEq, Repr

def droppedLogs : String := "dropped_logs"

def droppedSpans : String := "dropped_spans"

namespace DropCounters

/-- In the order of their names. -/
def named (c : DropCounters) : List NamedCounter :=
  [⟨droppedLogs, c.logs⟩, ⟨droppedSpans, c.spans⟩]

def add (a b : DropCounters) : DropCounters :=
  ⟨a.logs + b.logs, a.spans + b.spans⟩

end DropCounters

/-- A report that was handed to the transport, and the answer. -/
structure Delivery where
  auth : Auth
  report : Report
  answer : Answer
  deriving DecidableEq, Repr

inductive Event
  | remark (diagnostic : Diagnostic)
  | sent (delivery : Delivery)
  deriving DecidableEq, Repr

abbrev Trace := List Event

namespace Trace

def deliveries (trace : Trace) : List Delivery :=
  trace.filterMap fun
    | .sent delivery => some delivery
    | .remark _ => none

def remarks (trace : Trace) : List Diagnostic :=
  trace.filterMap fun
    | .sent _ => none
    | .remark diagnostic => some diagnostic

/-- Whether a panic of the transport went through to the caller. -/
def panicked (trace : Trace) : Bool :=
  trace.deliveries.any (·.answer = .panicked)

end Trace

structure Recorder (σ : Type) where
  enabled : Bool := true
  identity : Option Identity
  startMicros : Int
  logs : Buffer LogRecord
  spans : Buffer SpanRecord
  counters : DropCounters := {}
  reportStartMicros : Int
  nextFlushMicros : Int
  periodMicros : Int
  carrier : σ
  draws : List UInt64
  processId : UInt32
  maxPayloadDepth : Nat
  guarantee : DeliveryGuarantee
  debug : Bool
  shutDown : Bool := false

/-- The state after a step and what the step did to the outside. -/
structure Recorder.Turn (σ : Type) where
  next : Recorder σ
  trace : Trace := []

/-- The readings of one step that adds a record: for the record itself, for
whether a flush is due, and for the flush. -/
structure Readings where
  stamp : Int
  due : Int
  flush : Int
  deriving DecidableEq, Repr

def Readings.all (now : Int) : Readings :=
  ⟨now, now, now⟩

/-- What is logged. -/
structure Entry where
  spanGuid : Option String := none
  level : Level
  message : String
  payload : Option Json := none

namespace Recorder

variable {σ : Type}

/-- An instant so much later, but no later than the latest one. -/
def laterBy (now period : Int) : Int :=
  min (now + period) Duration.lastMicros

def create (T : Transport σ) (carrier : σ) (options : Options) (processId : UInt32)
    (draws : List UInt64) (now : Int) : Except ConfigError (Turn σ) := do
  options.validate
  let identity ← match options.identity? with
    | none => .ok none
    | some (group, token) => do
      let identity ← Identity.ofProcess processId group token now
      .ok (some identity)
  let periodMicros := options.reportingPeriod.micros
  let remark := .recorderCreated (T.name carrier) options.maxLogRecords options.maxSpanRecords
    identity.isSome
  return {
    next := {
      identity
      startMicros := now
      logs := .empty options.maxLogRecords
      spans := .empty options.maxSpanRecords
      reportStartMicros := now
      nextFlushMicros := laterBy now periodMicros
      periodMicros
      carrier
      draws
      processId
      maxPayloadDepth := options.maxPayloadDepth
      guarantee := options.delivery
      debug := options.debug }
    trace := if options.debug then [.remark remark] else [] }

/-! ## Identity -/

/-- The guid that new records get; empty while it is not known. -/
def guid (r : Recorder σ) : String :=
  match r.identity with
  | some identity => identity.guid
  | none => ""

/-- Sets the identity once. Later calls have to name the same one. -/
def setIdentity (r : Recorder σ) (groupName accessToken : String) :
    Except ConfigError (Turn σ) := do
  Identity.validate groupName accessToken
  match r.identity with
  | some identity => do
    identity.checkConsistent groupName accessToken
    return ⟨r, []⟩
  | none => do
    let identity ← Identity.ofProcess r.processId groupName accessToken r.startMicros
    let trace := if r.debug then [.remark (.identitySet identity.guid)] else []
    return ⟨{ r with identity := some identity }, trace⟩

/-! ## Flushing -/

def disable (r : Recorder σ) : Recorder σ :=
  { r with enabled := false, logs := r.logs.clear, spans := r.spans.clear }

def stampLog (guid : String) (record : LogRecord) : LogRecord :=
  if record.runtimeGuid = "" then { record with runtimeGuid := guid } else record

def stampSpan (guid : String) (record : SpanRecord) : SpanRecord :=
  if record.runtimeGuid = "" then { record with runtimeGuid := guid } else record

/-- Everything that is held, as one report whose window ends now. -/
def batch (r : Recorder σ) (identity : Identity) (now : Int) : Report where
  origin := ⟨identity.guid, identity.startMicros, identity.groupName⟩
  oldestMicros := r.reportStartMicros
  youngestMicros := max now r.reportStartMicros
  logRecords := r.logs.items.map (stampLog identity.guid)
  spanRecords := r.spans.items.map (stampSpan identity.guid)
  counters := r.counters.named

/-- What is left when a batch has been taken. -/
def emptied (r : Recorder σ) : Recorder σ :=
  { r with logs := r.logs.clear, spans := r.spans.clear, counters := {} }

/-- Puts a batch back in front of what was recorded since, with its counters, and
counts what no longer fits. -/
def retain (r : Recorder σ) (report : Report) (counters : DropCounters) : Recorder σ :=
  let (logs, lostLogs) := r.logs.restore report.logRecords
  let (spans, lostSpans) := r.spans.restore report.spanRecords
  { r with
    logs
    spans
    counters := (r.counters.add counters).add ⟨lostLogs, lostSpans⟩ }

/-- The next window starts where the report's window ends. -/
def advance (r : Recorder σ) (report : Report) : Recorder σ :=
  { r with reportStartMicros := report.youngestMicros }

/-- The remarks on an answer of the collector, and whether it ends recording. -/
def heed (r : Recorder σ) (response : Response) : Turn σ :=
  let errors := response.errors.map fun error => .remark (.collectorError error)
  if response.requestsDisable then ⟨r.disable, errors ++ [.remark .disableRequested]⟩
  else ⟨r, errors⟩

/-- What the outcome of a delivery does to the recorder that was emptied for it. -/
def settle (T : Transport σ) (r : Recorder σ) (report : Report) (counters : DropCounters) :
    Outcome → Turn σ
  | .unconfirmed => ⟨r.advance report, []⟩
  | .delivered response => (r.advance report).heed response
  | .failed error =>
    let trace := [.remark (.deliveryFailed error.message (T.name r.carrier))]
    match r.guarantee with
    | .clearOnSend => ⟨r.advance report, trace⟩
    | .retainUntilAcknowledged => ⟨r.retain report counters, trace⟩

/-- Hands everything that is held to the transport. After a panic the batch is
gone and the window stays. -/
def deliver (T : Transport σ) (r : Recorder σ) (identity : Identity) (now : Int) : Turn σ :=
  let report := r.batch identity now
  let auth := ⟨identity.accessToken⟩
  let announced := if r.debug then
    [.remark (.flushing report.logRecords.length report.spanRecords.length
      report.oldestMicros report.youngestMicros)] else []
  let sending := T.send r.carrier auth report
  let emptied := { r.emptied with carrier := sending.next }
  let trace := announced ++ .sent ⟨auth, report, sending.answer⟩ ::
    sending.remarks.map .remark
  match sending.answer with
  | .panicked => ⟨emptied, trace⟩
  | .settled outcome =>
    let settled := settle T emptied report r.counters outcome
    ⟨settled.next, trace ++ settled.trace⟩

/-- Attempts a flush. The next one is due a period after this attempt, also if
nothing can be sent yet or nothing is held. -/
def flush (T : Transport σ) (r : Recorder σ) (now : Int) : Turn σ :=
  if r.enabled then
    let r := { r with nextFlushMicros := laterBy now r.periodMicros }
    match r.identity with
    | none => ⟨r, []⟩
    | some identity =>
      if r.logs.isEmpty && r.spans.isEmpty then ⟨r, []⟩
      else deliver T r identity now
  else ⟨r, []⟩

def flushIfDue (T : Transport σ) (r : Recorder σ) (clock : Readings) : Turn σ :=
  if r.nextFlushMicros ≤ clock.due then flush T r clock.flush else ⟨r, []⟩

/-! ## Recording -/

/-- The text of a payload. One that is nested too deeply is left out of its
record, with a remark. -/
def payloadText (r : Recorder σ) (payload : Option Json) : Option String × Trace :=
  match payload with
  | none => (none, [])
  | some value =>
    match Payload.encode value r.maxPayloadDepth with
    | .ok text => (some text, [])
    | .error error => (none, [.remark (.payloadRejected error.message)])

def addLog (r : Recorder σ) (record : LogRecord) : Recorder σ :=
  let (logs, dropped, draws) := r.logs.push record r.draws
  { r with
    logs
    draws
    counters := { r.counters with logs := r.counters.logs + if dropped then 1 else 0 } }

def addSpan (r : Recorder σ) (record : SpanRecord) : Recorder σ :=
  let (spans, dropped, draws) := r.spans.push record r.draws
  { r with
    spans
    draws
    counters := { r.counters with spans := r.counters.spans + if dropped then 1 else 0 } }

def logRecord (r : Recorder σ) (entry : Entry) (payloadJson : Option String) (now : Int) :
    LogRecord where
  timestampMicros := now
  runtimeGuid := r.guid
  spanGuid := entry.spanGuid
  level := entry.level
  errorFlag := entry.level.isError
  message := entry.message
  payloadJson

/-- Logs an entry. A payload is looked at even when nothing is recorded. -/
def log (T : Transport σ) (r : Recorder σ) (clock : Readings) (entry : Entry) : Turn σ :=
  let (payloadJson, trace) := r.payloadText entry.payload
  if r.enabled then
    let recorded := r.addLog (r.logRecord entry payloadJson clock.stamp)
    let flushed := flushIfDue T recorded clock
    ⟨flushed.next, trace ++ flushed.trace⟩
  else ⟨r, trace⟩

def startSpan (r : Recorder σ) (guid : String) (now : Int) : Span :=
  if r.enabled then .start guid now else .inert

/-- Ends a span and takes its record, unless nothing is recorded. A span never
ends before its start. -/
def finishSpan (T : Transport σ) (r : Recorder σ) (clock : Readings) (data : SpanData) :
    SpanData × Turn σ :=
  if r.enabled then
    let data := { data with endMicros := max clock.stamp data.startMicros }
    (data, flushIfDue T (r.addSpan (data.toRecord r.guid)) clock)
  else (data, ⟨r, []⟩)

/-! ## Looking at it -/

def describeIdentity (identity : Identity) : String :=
  "Identity \x7b access_token: " ++ Quoted.text identity.accessToken ++
    ", group_name: " ++ Quoted.text identity.groupName ++
    ", runtime_guid: " ++ Quoted.text identity.guid ++
    ", start_micros: " ++ toString identity.startMicros ++ " \x7d"

/-- A line for people who look into a program. -/
def describe (T : Transport σ) (r : Recorder σ) : String :=
  let identity := match r.identity with
    | some identity => "Some(" ++ describeIdentity identity ++ ")"
    | none => "None"
  "Runtime \x7b enabled: " ++ toString r.enabled ++ ", identity: " ++ identity ++
    ", pending_logs: " ++ toString r.logs.length ++
    ", pending_spans: " ++ toString r.spans.length ++
    ", transport: " ++ Quoted.text (T.name r.carrier) ++ ", .. \x7d"

/-! ## The end -/

/-- The first call flushes and closes the transport; later ones do nothing. If
the flush panics the transport is not closed. -/
def shutdown (T : Transport σ) (r : Recorder σ) (now : Int) : Turn σ :=
  if r.shutDown then ⟨r, []⟩
  else
    let flushed := flush T { r with shutDown := true } now
    if flushed.trace.panicked then flushed
    else ⟨{ flushed.next with carrier := T.close flushed.next.carrier }, flushed.trace⟩

end Recorder

end Telemetry
