import Telemetry.Delivery
import Telemetry.Frame

/-!
Reports written on one persistent connection whose answers are never read. What
the network does during one send is given beforehand as data: how the name
resolves, how each attempt to connect ends, and what the reads and writes of a
connection give. A send then says what it wrote and on which connection.

A connection is dropped after any write that stopped inside a frame, because
the other side finds the next request only by counting octets.
-/

namespace Telemetry

/-- The end of a read that must not wait. No octets at all mean the end of the
stream. -/
inductive ReadResult
  | took (count : Nat)
  | blocked
  | interrupted
  | failed
  deriving DecidableEq, Repr

/-- The end of a write: it takes as many octets as it is offered, up to a number. -/
inductive WriteResult
  | took (most : Nat)
  | interrupted
  | failed (reason : String)
  deriving DecidableEq, Repr

/-- Why an attempt to connect gives no connection. -/
inductive Unreachable
  | connect (reason : String)
  | tls (reason : String)
  deriving DecidableEq, Repr

def Unreachable.error : Unreachable → TransportError
  | .connect reason => .connect reason
  | .tls reason => .tls reason

/-- What one connection does during one send. When the reads are used up there is
nothing to read; when the writes are used up each takes all it is offered. Reads do
not wait after `unblocks`, and may wait again after `blocks`; either may fail. -/
structure Conduct where
  unblocks : Bool := true
  reads : List ReadResult := []
  blocks : Bool := true
  writes : List WriteResult := []
  flushError : Option String := none
  deriving DecidableEq, Repr

/-- What the network does during one send. Attempts to connect are numbered from
zero over all rounds and addresses. -/
structure Network where
  lookup : Except String (List String)
  attempt : Nat → Except Unreachable Conduct
  held : Conduct := {}

structure DeliveryMetrics where
  reportsWritten : Nat := 0
  reportsFailed : Nat := 0
  connectionsOpened : Nat := 0
  bytesWritten : Nat := 0
  deriving DecidableEq, Repr

/-- The state between sends. `held` is the number of the connection that is kept,
counted from zero over all connections opened. -/
structure Persistent where
  endpoint : Endpoint
  format : BodyFormat
  connect : ConnectOptions
  debug : Bool := false
  addresses : List String := []
  held : Option Nat := none
  seqId : UInt32 := 0
  metrics : DeliveryMetrics := {}

/-- What a send left on a connection: the octets of each write that succeeded. -/
structure Written where
  connection : Nat
  chunks : List (List UInt8)
  deriving DecidableEq, Repr

namespace Persistent

/-! ## Connecting -/

/-- At most this many reads empty a connection before a write. -/
def maxDrainReads : Nat := 16

/-- Whether the connection is still open after everything that can be read at
once has been read, as far as the reads tell. -/
def drain : (reads : Nat) → List ReadResult → Bool
  | 0, _ => true
  | _ + 1, [] => true
  | reads + 1, result :: rest =>
    match result with
    | .took 0 => false
    | .took _ => drain reads rest
    | .blocked => true
    | .interrupted => drain reads rest
    | .failed => false

/-- Whether a held connection is still good for a write. -/
def staysOpen (conduct : Conduct) : Bool :=
  conduct.unblocks && drain maxDrainReads conduct.reads && conduct.blocks

/-- Resolves the name unless that has been done. An empty answer is not kept. -/
def resolve (t : Persistent) (network : Network) :
    Except TransportError (List String) × Persistent :=
  match t.addresses with
  | _ :: _ => (.ok t.addresses, t)
  | [] =>
    match network.lookup with
    | .error reason => (.error (.resolve (t.endpoint.host ++ ": " ++ reason)), t)
    | .ok [] => (.error (.resolve t.endpoint.host), t)
    | .ok addresses => (.ok addresses, { t with addresses })

/-- The addresses in the order in which they are tried, each with its round. -/
def tries (rounds : Nat) (addresses : List String) : List (String × Nat) :=
  (List.range rounds).flatMap fun round => addresses.map fun address => (address, round)

/-- How a list of tries ended: the connection, or why the last try gave none. -/
structure Connecting where
  result : Except Unreachable Conduct
  remarks : List Diagnostic

/-- Tries until one succeeds. `number` counts the tries made before and `last` is
the reason to give if none is left. -/
def tryAll (network : Network) (debug : Bool) (last : Unreachable) :
    (number : Nat) → List (String × Nat) → Connecting
  | _, [] => ⟨.error last, []⟩
  | number, (address, round) :: rest =>
    match network.attempt number with
    | .ok conduct =>
      ⟨.ok conduct, if debug then [.connectionOpened address round] else []⟩
    | .error failure =>
      let later := tryAll network debug failure (number + 1) rest
      ⟨later.result,
        (if debug then [.connectFailed address round failure.error.message] else []) ++
          later.remarks⟩

/-- The connection to write on, its conduct, the remarks on the way to it, and
the state with that connection held. -/
structure Reached where
  result : Except TransportError (Nat × Conduct)
  remarks : List Diagnostic
  next : Persistent

def openNew (t : Persistent) (network : Network) : Reached :=
  let (resolved, t) := t.resolve network
  match resolved with
  | .error error => ⟨.error error, [], t⟩
  | .ok addresses =>
    let placeholder := .connect "no connection attempt made"
    let connecting := tryAll network t.debug placeholder 0
      (tries (max 1 t.connect.connectAttempts) addresses)
    match connecting.result with
    | .error failure => ⟨.error failure.error, connecting.remarks, t⟩
    | .ok conduct =>
      let number := t.metrics.connectionsOpened
      ⟨.ok (number, conduct), connecting.remarks,
        { t with
          held := some number
          metrics := { t.metrics with connectionsOpened := number + 1 } }⟩

/-- The held connection if it is still open, else a new one. A connection found
closed is let go before a new one is tried. -/
def reach (t : Persistent) (network : Network) : Reached :=
  match t.held with
  | none => t.openNew network
  | some number =>
    if staysOpen network.held then
      ⟨.ok (number, network.held), [], t⟩
    else
      let reached := openNew { t with held := none } network
      { reached with
        remarks := (if t.debug then [.collectorClosed] else []) ++ reached.remarks }

/-! ## Writing -/

/-- How the writes of a frame ended. The end of a chunk is computed in 64 bits;
past them the caller panics before anything is written. -/
inductive WriteEnd
  | complete
  | failed (error : TransportError)
  | overflow
  deriving DecidableEq, Repr

structure Writing where
  chunks : List (List UInt8)
  ending : WriteEnd
  remarks : List Diagnostic

def Writing.after (chunk : List UInt8) (remarks : List Diagnostic) (later : Writing) :
    Writing :=
  ⟨chunk :: later.chunks, later.ending, remarks ++ later.remarks⟩

/-- What is fixed while one frame is written. -/
structure Chunking where
  total : Nat
  maxChunk : Nat
  debug : Bool

/-- The end of the next chunk has no index. -/
def Chunking.overflows (c : Chunking) (sent : Nat) : Bool :=
  0x10000000000000000 ≤ sent + c.maxChunk

def Chunking.remark (c : Chunking) (written sent : Nat) : List Diagnostic :=
  if c.debug then [.socketWrite written sent c.total] else []

/-- Writes that take all they are offered, as long as something is left. -/
def writeFreely (c : Chunking) (sent : Nat) (rest : List UInt8) : Writing :=
  if rest.length = 0 then ⟨[], .complete, []⟩
  else if c.overflows sent then ⟨[], .overflow, []⟩
  else if c.maxChunk = 0 then ⟨[[]], .failed (.zeroWrite sent c.total), []⟩
  else
    let chunk := rest.take c.maxChunk
    let sent := sent + chunk.length
    .after chunk (c.remark chunk.length sent) (writeFreely c sent (rest.drop c.maxChunk))
termination_by rest.length
decreasing_by
  simp only [List.length_drop]
  omega

/-- Writes `rest`, of which `sent` octets went before, with the results that the
connection gives. -/
def writeRest (c : Chunking) (sent : Nat) (rest : List UInt8) :
    List WriteResult → Writing
  | [] => writeFreely c sent rest
  | result :: results =>
    if rest.length = 0 then ⟨[], .complete, []⟩
    else if c.overflows sent then ⟨[], .overflow, []⟩
    else
      match result with
      | .interrupted => writeRest c sent rest results
      | .failed reason => ⟨[], .failed (.write sent c.total reason), []⟩
      | .took most =>
        let chunk := (rest.take c.maxChunk).take most
        if chunk.length = 0 then ⟨[[]], .failed (.zeroWrite sent c.total), []⟩
        else
          let sent := sent + chunk.length
          .after chunk (c.remark chunk.length sent)
            (writeRest c sent (rest.drop chunk.length) results)

/-- Writes a frame and flushes the connection. -/
def writeAll (c : Chunking) (frame : List UInt8) (conduct : Conduct) : Writing :=
  let writing := writeRest c 0 frame conduct.writes
  match writing.ending, conduct.flushError with
  | .complete, some reason =>
    { writing with ending := .failed (.write c.total c.total reason) }
  | _, _ => writing

/-! ## Sending -/

structure Sent where
  sending : Sending Persistent
  written : Option Written

def failedOnce (m : DeliveryMetrics) : DeliveryMetrics :=
  { m with reportsFailed := m.reportsFailed + 1 }

/-- The state after an error of connecting or writing. -/
def fail (t : Persistent) (error : TransportError) (remarks : List Diagnostic) :
    Sending Persistent :=
  ⟨remarks ++ (if t.debug then [.sendFailed error.message] else []),
    .settled (.failed error),
    { t with
      held := if error.isConnectionFatal then none else t.held
      metrics := failedOnce t.metrics }⟩

/-- Writes a frame on the connection that can be reached. -/
def sendFrame (t : Persistent) (frame : List UInt8) (network : Network) : Sent :=
  let reached := t.reach network
  match reached.result with
  | .error error => ⟨reached.next.fail error reached.remarks, none⟩
  | .ok (connection, conduct) =>
    let t := reached.next
    let writing := writeAll ⟨frame.length, t.connect.maxBytesPerWrite, t.debug⟩ frame conduct
    let remarks := reached.remarks ++ writing.remarks
    let written := some ⟨connection, writing.chunks⟩
    match writing.ending with
    | .complete =>
      ⟨⟨remarks, .settled .unconfirmed,
        { t with metrics := { t.metrics with
            reportsWritten := t.metrics.reportsWritten + 1
            bytesWritten := t.metrics.bytesWritten + frame.length } }⟩, written⟩
    | .failed error => ⟨t.fail error remarks, written⟩
    | .overflow => ⟨⟨remarks, .panicked, t⟩, written⟩

/-- Sends one report. Every send has the next number, whatever becomes of it; a
call that cannot be written leaves the connection alone. -/
def send (t : Persistent) (auth : Auth) (report : Report) (network : Network) : Sent :=
  let t := { t with seqId := t.seqId + 1 }
  match t.format.encodeCall ⟨reportMethod, t.seqId, auth, report⟩ with
  | .error error =>
    ⟨⟨[], .settled (.failed (.encode error)), { t with metrics := failedOnce t.metrics }⟩,
      none⟩
  | .ok body => t.sendFrame (Frame.post t.endpoint t.format.contentType body) network

def close (t : Persistent) : Persistent :=
  { t with held := none }

def ofOptions (options : Options) : Persistent where
  endpoint := .ofOptions options
  format := Codec.binary.bodyFormat
  connect := options.connect
  debug := options.debug

end Persistent

end Telemetry
