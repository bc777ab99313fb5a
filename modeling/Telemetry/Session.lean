import Telemetry.Recorder

/-!
A recorder together with the handles of the spans that were started on it. Spans
are numbered in the order in which they were started, inert ones included; a
number stays with its span when others are dropped.
-/

namespace Telemetry

structure Session (σ : Type) where
  recorder : Recorder σ
  /-- None where the handle has been dropped. -/
  spans : List (Option Span) := []

/-- The readings of a step on a span handle: dropping it may add two records. -/
structure Clock where
  first : Readings
  second : Readings
  deriving DecidableEq, Repr

def Clock.all (now : Int) : Clock :=
  ⟨.all now, .all now⟩

inductive Step
  | log (entry : Entry)
  | flush
  | disable
  | shutdown
  | setIdentity (groupName accessToken : String)
  | startSpan (guid : String)
  | setOperation (span : Nat) (name : String)
  | addAttribute (span : Nat) (key value : String)
  | addJoinId (span : Nat) (key value : String)
  | setEndUserId (span : Nat) (value : String)
  | setParent (span parent : Nat)
  | spanLog (span : Nat) (level : Level) (message : String) (payload : Option Json)
  | finishSpan (span : Nat)
  | dropSpan (span : Nat)

/-- A step's effect; only setting an identity can be refused. -/
structure Session.Turn (σ : Type) where
  next : Session σ
  trace : Trace := []
  refused : Option ConfigError := none

namespace Session

variable {σ : Type}

def span? (s : Session σ) (index : Nat) : Option Span :=
  (s.spans[index]?).join

def setSpan (s : Session σ) (index : Nat) (span : Option Span) : Session σ :=
  { s with spans := s.spans.set index span }

/-- Takes over what a step of the recorder did. -/
def follow (s : Session σ) (turn : Recorder.Turn σ) : Turn σ :=
  ⟨{ s with recorder := turn.next }, turn.trace, none⟩

/-- Changes one span and nothing else. -/
def edit (s : Session σ) (index : Nat) (f : Span → Span) : Turn σ :=
  match s.span? index with
  | some span => { next := s.setSpan index (some (f span)) }
  | none => { next := s }

def finish (T : Transport σ) (s : Session σ) (clock : Readings) (index : Nat)
    (span : Span) : Turn σ :=
  if span.live then
    let (data, turn) := s.recorder.finishSpan T clock span.data
    (s.setSpan index (some { span with data })).follow turn
  else { next := s }

def logOn (T : Transport σ) (s : Session σ) (clock : Readings) (index : Nat) (span : Span)
    (level : Level) (message : String) (payload : Option Json) : Turn σ :=
  if span.live then
    let entry := { spanGuid := some span.data.guid, level, message, payload }
    (s.setSpan index (some (span.noteLevel level))).follow (s.recorder.log T clock entry)
  else { next := s }

/-- Lets a handle go. A live span that is not finished is logged about and then
finished, unless the flush after the log panics. -/
def drop (T : Transport σ) (s : Session σ) (clock : Clock) (index : Nat) (span : Span) :
    Turn σ :=
  let s := s.setSpan index none
  if span.live && !span.data.isFinished then
    let warned := s.recorder.log T clock.first
      { spanGuid := some span.data.guid, level := .warn,
        message := Span.abandonedMessage span.data }
    if warned.trace.panicked then s.follow warned
    else
      let (_, finished) := warned.next.finishSpan T clock.second span.data
      s.follow ⟨finished.next, warned.trace ++ finished.trace⟩
  else { next := s }

/-- The step on a span if its handle is still there. -/
def onSpan (s : Session σ) (index : Nat) (f : Span → Turn σ) : Turn σ :=
  match s.span? index with
  | some span => f span
  | none => { next := s }

def apply (T : Transport σ) (s : Session σ) (clock : Clock) : Step → Turn σ
  | .log entry => s.follow (s.recorder.log T clock.first entry)
  | .flush => s.follow (s.recorder.flush T clock.first.flush)
  | .disable => s.follow ⟨s.recorder.disable, []⟩
  | .shutdown => s.follow (s.recorder.shutdown T clock.first.flush)
  | .setIdentity groupName accessToken =>
    match s.recorder.setIdentity groupName accessToken with
    | .ok turn => s.follow turn
    | .error error => { next := s, refused := some error }
  | .startSpan guid =>
    let span := s.recorder.startSpan guid clock.first.stamp
    { next := { s with spans := s.spans ++ [some span] } }
  | .setOperation index name => s.edit index (·.setOperation name)
  | .addAttribute index key value => s.edit index (·.addAttribute key value)
  | .addJoinId index key value => s.edit index (·.addJoinId key value)
  | .setEndUserId index value => s.edit index (·.setEndUserId value)
  | .setParent index parent =>
    match s.span? parent with
    | some parent => s.edit index (·.setParent parent)
    | none => { next := s }
  | .spanLog index level message payload =>
    s.onSpan index fun span => s.logOn T clock.first index span level message payload
  | .finishSpan index => s.onSpan index fun span => s.finish T clock.first index span
  | .dropSpan index => s.onSpan index fun span => s.drop T clock index span

/-- Applies steps in order, each at its own readings of the clock. -/
def run (T : Transport σ) (s : Session σ) : List (Clock × Step) → Session σ × Trace
  | [] => (s, [])
  | (clock, step) :: rest =>
    let turn := s.apply T clock step
    let (last, trace) := run T turn.next rest
    (last, turn.trace ++ trace)

end Session

end Telemetry
