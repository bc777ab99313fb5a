import Telemetry.Delivery
import Telemetry.Frame

/-!
Reports posted by a worker whose replies are awaited and decoded. A worker is
started when one is needed and given up after any failure. Each exchange has a
number of its own, and only a reply with that number is taken, so a reply that
comes too late for its exchange is of no use to a later one.
-/

namespace Telemetry

/-- What came of one post. -/
inductive Posted
  | failed (reason : String)
  | answered (status : Nat) (body : List UInt8)
  deriving DecidableEq, Repr

/-- What the worker does while one exchange is waited for: whether the one that
is held still runs, whether a new one starts, whether it takes the job, which
replies arrive in time and for which exchanges, and whether it ends without one. -/
structure WorkerConduct where
  running : Bool := true
  spawnError : Option String := none
  takesJob : Bool := true
  replies : List (Nat × Posted) := []
  gone : Bool := false

structure HttpDelivery where
  endpoint : Endpoint
  format : BodyFormat
  connectTimeout : Duration := .ofSecs 1
  requestTimeout : Duration := .ofSecs 10
  debug : Bool := false
  /-- The number of the worker that is held, counted over all workers started. -/
  worker : Option Nat := none
  workersStarted : Nat := 0
  exchanges : Nat := 0
  seqId : UInt32 := 0

namespace HttpDelivery

/-- Granted to the worker beyond the timeouts of its client. -/
def replyGrace : Duration :=
  .ofMillis 500

/-- How long a reply is waited for, if there is such a duration. -/
def deadline? (t : HttpDelivery) : Option Duration := do
  let timeouts ← t.connectTimeout.add? t.requestTimeout
  timeouts.add? replyGrace

def isSuccess (status : Nat) : Bool :=
  200 ≤ status && status ≤ 299

/-- The worker for the next job, started if there is none that runs. -/
def withWorker (t : HttpDelivery) (conduct : WorkerConduct) :
    Except TransportError HttpDelivery :=
  if t.worker.isSome && conduct.running then .ok t
  else
    match conduct.spawnError with
    | some reason => .error (.http ("worker spawn failed: " ++ reason))
    | none =>
      .ok { t with
        worker := some t.workersStarted
        workersStarted := t.workersStarted + 1 }

/-- The answer in the reply to one exchange. -/
def decodeReply (t : HttpDelivery) : Posted → Except TransportError Response
  | .failed reason => .error (.http reason)
  | .answered status body =>
    if isSuccess status then
      match t.format.decodeResponse body with
      | .ok response => .ok response
      | .error error => .error (.decode error.message)
    else .error (.status status)

/-- The first reply with the number of the exchange. -/
def awaited (exchange : Nat) (replies : List (Nat × Posted)) : Option Posted :=
  (replies.find? (·.1 = exchange)).map (·.2)

def awaitReply (t : HttpDelivery) (exchange : Nat) (wait : Duration)
    (conduct : WorkerConduct) : Except TransportError Response :=
  match awaited exchange conduct.replies with
  | some posted => t.decodeReply posted
  | none =>
    if conduct.gone then .error (.http "http worker panicked")
    else .error (.http ("no reply from http worker within " ++ wait.text))

/-- One exchange: its outcome, the state after it, and whether the worker has
been given the job. -/
structure Exchanged where
  result : Except TransportError Response
  next : HttpDelivery
  posted : Bool

def exchange (t : HttpDelivery) (wait : Duration) (conduct : WorkerConduct) : Exchanged :=
  let number := t.exchanges
  let t := { t with exchanges := number + 1 }
  match t.withWorker conduct with
  | .error error => ⟨.error error, t, false⟩
  | .ok t =>
    if conduct.takesJob then ⟨t.awaitReply number wait conduct, t, true⟩
    else ⟨.error (.http "http worker exited"), t, false⟩

def close (t : HttpDelivery) : HttpDelivery :=
  { t with worker := none }

/-- A send and the body that its worker was given. -/
structure Sent where
  sending : Sending HttpDelivery
  posted : Option (List UInt8)

/-- Sends one report. A deadline that is too long for a duration is a panic, with
nothing posted. -/
def send (t : HttpDelivery) (auth : Auth) (report : Report) (conduct : WorkerConduct) :
    Sent :=
  let t := { t with seqId := t.seqId + 1 }
  match t.format.encodeCall ⟨reportMethod, t.seqId, auth, report⟩ with
  | .error error => ⟨⟨[], .settled (.failed (.encode error)), t⟩, none⟩
  | .ok body =>
    match t.deadline? with
    | none => ⟨⟨[], .panicked, t⟩, none⟩
    | some wait =>
      let exchanged := t.exchange wait conduct
      let posted := if exchanged.posted then some body else none
      match exchanged.result with
      | .ok response =>
        let remarks := if t.debug then
          [.acknowledged response.commands.length response.errors.length] else []
        ⟨⟨remarks, .settled (.delivered response), exchanged.next⟩, posted⟩
      | .error error =>
        let remarks := if t.debug then [.exchangeFailed error.message] else []
        ⟨⟨remarks, .settled (.failed error), exchanged.next.close⟩, posted⟩

def ofOptions (options : Options) : HttpDelivery where
  endpoint := .ofOptions options
  format := Codec.binary.bodyFormat
  connectTimeout := options.connect.connectTimeout
  debug := options.debug

end HttpDelivery

end Telemetry
