import Telemetry.Delivery.Http
import Telemetry.Delivery.Persistent
import Telemetry.Endpoint.Target
import Telemetry.Http.Visit
import Telemetry.Tls.Client

/-!
A collector in the same process: it reads requests off its connections, answers
each of them in the same way, and can be told to stop listening or to close what
is open. It is also the network of the transports that talk to it: a connect
succeeds exactly while it listens, and whatever one side has written or closed
the other side sees at once.
-/

namespace Telemetry

/-- What is answered to a request: a well-formed response, or octets that need
not be one. -/
inductive Reply
  | response (status : Nat) (body : List UInt8)
  | raw (octets : List UInt8)
  deriving DecidableEq, Repr

/-- A connection as the collector sees it. -/
structure Link where
  /-- How much it has sent that has not been read. -/
  unread : Nat := 0
  /-- The octets of a request that is not there as a whole yet. -/
  arrived : List UInt8 := []
  isOpen : Bool := true
  deriving DecidableEq, Repr

/-- A request and the number of its connection. -/
structure Arrival where
  connection : Nat
  request : Frame.Request
  deriving DecidableEq, Repr

structure Collector where
  /-- Where it is reached, as host and port. -/
  address : String
  listening : Bool := true
  reply : Option Reply := none
  closeAfterRequest : Bool := false
  greeting : List UInt8 := []
  links : List Link := []
  arrivals : List Arrival := []
  /-- The open connection that an HTTP client keeps for its next request. -/
  kept : Option Http.Version := none

namespace Collector

def responseHead (status length : Nat) : String :=
  "HTTP/1.1 " ++ toString status ++ " Status\r\nContent-Length: " ++ toString length ++
    "\r\n\r\n"

def Reply.octets : Reply → List UInt8
  | .response status body => Utf8.encode (responseHead status body.length) ++ body
  | .raw octets => octets

/-- Closes every connection. -/
def closeAll (c : Collector) : Collector :=
  { c with
    links := c.links.map fun link => { link with isOpen := false }
    kept := none }

/-- Sends octets on the newest connection, if that is open. An HTTP client gives
up a connection on which it gets what it did not ask for. -/
def write (c : Collector) (count : Nat) : Collector :=
  let c := if count = 0 then c else { c with kept := none }
  match c.links.getLast? with
  | some link =>
    if link.isOpen then
      { c with links := c.links.dropLast ++ [{ link with unread := link.unread + count }] }
    else c
  | none => c

/-- Reads requests off a connection while it is open, answering each. -/
def serve (c : Collector) (connection : Nat) : (steps : Nat) → Link → Collector × Link
  | 0, link => (c, link)
  | steps + 1, link =>
    if link.isOpen then
      match Frame.takeRequest? link.arrived with
      | none => (c, link)
      | some (request, rest) =>
        let answer := match c.reply with
          | some reply => (Reply.octets reply).length
          | none => 0
        serve { c with arrivals := c.arrivals ++ [⟨connection, request⟩] } connection steps
          { unread := link.unread + answer
            arrived := rest
            isOpen := !c.closeAfterRequest }
    else (c, link)

/-- Takes octets that were written on a connection, a new one or an old one. -/
def receive (c : Collector) (connection : Nat) (octets : List UInt8) : Collector :=
  let link := c.links.getD connection { unread := c.greeting.length }
  let link := { link with arrived := link.arrived ++ octets }
  let (c, link) := c.serve connection link.arrived.length link
  if connection < c.links.length then { c with links := c.links.set connection link }
  else { c with links := c.links ++ [link] }

/-! ## As a network of sockets -/

/-- A result that is forced on one read or write of a socket. -/
inductive SocketFault
  | atMost (count : Nat)
  | interrupted
  | closed
  | broken
  | reset
  | blocked
  deriving DecidableEq, Repr

def brokenPipe : String := "Broken pipe (os error 32)"

def connectionReset : String := "Connection reset by peer (os error 104)"

def unavailable : String := "Resource temporarily unavailable (os error 11)"

def refusal (c : Collector) : String :=
  c.address ++ ": Connection refused (os error 111)"

/-- The most that one read takes. -/
def readSize : Nat := 4096

/-- The reads of a drain, at most `reads` of them, and what is still unread. -/
def drainReads (isOpen : Bool) : (reads : Nat) → List SocketFault → (unread : Nat) →
    List ReadResult × Nat
  | 0, _, unread => ([], unread)
  | reads + 1, faults, unread =>
    let most := match faults.head? with
      | some (.atMost count) => min count readSize
      | _ => readSize
    match faults.head? with
    | some .interrupted =>
      let (later, left) := drainReads isOpen reads faults.tail unread
      (.interrupted :: later, left)
    | some .closed => ([.took 0], unread)
    | some .broken => ([.failed], unread)
    | some .reset => ([.failed], unread)
    | some .blocked => ([.blocked], unread)
    | _ =>
      if unread = 0 then ([if isOpen then .blocked else .took 0], 0)
      else
        let count := min most unread
        let (later, left) := drainReads isOpen reads faults.tail (unread - count)
        (.took count :: later, left)

/-- What a forced result gives. Even a write of nothing fails on a connection that
the collector has closed. -/
def writeResult (isOpen : Bool) : SocketFault → WriteResult
  | .atMost count => if isOpen then .took count else .failed brokenPipe
  | .interrupted => .interrupted
  | .closed => .took 0
  | .broken => .failed brokenPipe
  | .reset => .failed connectionReset
  | .blocked => .failed unavailable

/-- The writes of one send: forced ones first, and then none that succeeds on a
connection that the collector has closed. -/
def writeResults (isOpen : Bool) (faults : List SocketFault) : List WriteResult :=
  faults.map (writeResult isOpen) ++ if isOpen then [] else [.failed brokenPipe]

structure SocketFaults where
  reads : List SocketFault := []
  writes : List SocketFault := []
  deriving DecidableEq, Repr

/-- No name holds a null character; any other one is the collector's. -/
def lookup (c : Collector) (host : String) : Except String (List String) :=
  if host.toList.contains '\x00' then
    .error "file name contained an unexpected NUL byte"
  else .ok [c.address]

/-- Why a handshake with the collector ends. It speaks no TLS, and reads none of what
a client says. -/
def handshakeError (greeting : List UInt8) : String :=
  ((Tls.failure? greeting).map (·.message)).getD unavailable

/-- A secure connection ends with its handshake. -/
def network (c : Collector) (t : Persistent) (faults : SocketFaults) : Network where
  lookup := c.lookup t.endpoint.host
  attempt _ :=
    if !c.listening then .error (.connect c.refusal)
    else
      match t.endpoint.scheme with
      | .secure => .error (.tls (handshakeError c.greeting))
      | .plain => .ok { writes := writeResults true faults.writes }
  held :=
    match t.held.bind (c.links[·]?) with
    | some link =>
      { reads := (drainReads link.isOpen Persistent.maxDrainReads faults.reads link.unread).1
        writes := writeResults link.isOpen faults.writes }
    | none => {}

/-- What a send has read off the held connection. -/
def drained (c : Collector) (t : Persistent) (faults : SocketFaults) : Collector :=
  match t.held with
  | none => c
  | some number =>
    let left (link : Link) : Nat :=
      (drainReads link.isOpen Persistent.maxDrainReads faults.reads link.unread).2
    { c with links := c.links.modify number fun link => { link with unread := left link } }

/-- One send on a persistent connection to the collector. -/
def sendPersistent (c : Collector) (t : Persistent) (auth : Auth) (report : Report)
    (faults : SocketFaults) : Persistent.Sent × Collector :=
  let sent := t.send auth report (c.network t faults)
  match sent.written with
  | none => (sent, c)
  | some written =>
    (sent, (c.drained t faults).receive written.connection written.chunks.flatten)

/-! ## As an HTTP server -/

/-- What an HTTP client meets here. It speaks first and in plain text, so it cannot
be served where the collector greets it, or where a secure connection is due. -/
def server (c : Collector) (t : HttpDelivery) : Http.Server where
  listens := c.listening && c.greeting.isEmpty && t.endpoint.scheme = .plain &&
    (c.lookup t.endpoint.host).isOk
  reply := (c.reply.map Reply.octets).getD []
  closes := c.closeAfterRequest

/-- What a send of this client comes to here, if it posts anything. A connection is
kept by the worker that opened it. -/
def visit (c : Collector) (t : HttpDelivery) : Http.Visit :=
  (c.server t).visit Http.maxRedirects (if t.worker.isSome then c.kept else none) true
    t.endpoint.target

/-- An answer whose status is no success is not read to its end. -/
def posted (visit : Http.Visit) : Posted :=
  match visit.answer with
  | none => .failed "error sending request"
  | some answer =>
    match answer.body with
    | some body => .answered answer.head.status body
    | none =>
      if HttpDelivery.isSuccess answer.head.status then
        .failed "error decoding response body"
      else .answered answer.head.status []

def workerConduct (c : Collector) (t : HttpDelivery) : WorkerConduct where
  replies := [(t.exchanges, posted (c.visit t))]

/-- The headers of a request with a body, or of one that only gets. -/
def headerLines (t : HttpDelivery) (body : Option (List UInt8)) : List String :=
  let always := [
    "accept: " ++ t.format.contentType,
    "user-agent: " ++ Frame.userAgent,
    "host: " ++ t.endpoint.hostHeader]
  match body with
  | none => always
  | some body =>
    ("content-type: " ++ t.format.contentType) :: always ++
      ["content-length: " ++ toString body.length]

def httpRequest (t : HttpDelivery) (body : List UInt8) (request : Http.Request) :
    Frame.Request :=
  let headers := headerLines t (if request.posts then some body else none)
  { head := Utf8.encode
      (String.join ((request.line :: headers).map (· ++ Frame.lineEnd)) ++ Frame.lineEnd)
    line := Utf8.encode request.line
    headers := headers.map Utf8.encode
    body := if request.posts then body else [] }

/-- One exchange of an HTTP client with the collector. -/
def sendHttp (c : Collector) (t : HttpDelivery) (auth : Auth) (report : Report) :
    HttpDelivery.Sent × Collector :=
  let sent := t.send auth report (c.workerConduct t)
  match sent.posted with
  | none => (sent, c)
  | some body =>
    let visit := c.visit t
    (sent, { c with
      arrivals := c.arrivals ++
        visit.requests.map fun request => ⟨0, httpRequest t body request⟩
      kept := visit.kept })

end Collector

/-! ## Transports to the collector -/

inductive Client
  | persistent (t : Persistent)
  | http (t : HttpDelivery)
  | none

/-- A transport and the collector it talks to, as one state. -/
structure Loopback where
  collector : Collector
  client : Client

namespace Loopback

def name (l : Loopback) : String :=
  match l.client with
  | .persistent _ => TransportKind.fireAndForget.name
  | .http _ => TransportKind.http.name
  | .none => Transport.null.name ()

def sendWith (l : Loopback) (auth : Auth) (report : Report)
    (faults : Collector.SocketFaults) : Sending Loopback × Option Written :=
  match l.client with
  | .persistent t =>
    let (sent, collector) := l.collector.sendPersistent t auth report faults
    (⟨sent.sending.remarks, sent.sending.answer,
      ⟨collector, .persistent sent.sending.next⟩⟩, sent.written)
  | .http t =>
    let (sent, collector) := l.collector.sendHttp t auth report
    (⟨sent.sending.remarks, sent.sending.answer, ⟨collector, .http sent.sending.next⟩⟩,
      Option.none)
  | .none => (⟨[], .settled .unconfirmed, l⟩, Option.none)

def close (l : Loopback) : Loopback :=
  match l.client with
  | .persistent t => { l with client := .persistent t.close }
  | .http t => { l with client := .http t.close }
  | .none => l

def transport : Transport Loopback where
  name := name
  send l auth report := (l.sendWith auth report {}).1
  close := close

/-- The transport that the options ask for. -/
def ofOptions (collector : Collector) (options : Options) : Loopback :=
  ⟨collector, match options.transport with
    | .fireAndForget => .persistent (.ofOptions options)
    | .http => .http (.ofOptions options)⟩

end Loopback

end Telemetry
