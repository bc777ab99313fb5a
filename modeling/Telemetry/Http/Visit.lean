import Telemetry.Http.Body
import Telemetry.Http.Location

/-!
One visit of a client to a server that answers every request with the same octets:
the requests that it makes, the answer that it stays with, and the connection that
it keeps. An answer may send the client on to another target; it goes there a
limited number of times, and not to another server.
-/

namespace Telemetry.Http

/-- An answer. Its body is missing if it is cut short. -/
structure Answer where
  head : Head
  body : Option (List UInt8)
  /-- Another request may be made on the same connection. -/
  isReusable : Bool
  deriving DecidableEq, Repr

namespace Answer

/-- Reads the octets of an answer. Octets that are left over were not asked for, and
a connection on which they come is given up. -/
def read? (ended : Bool) (octets : List UInt8) : Option Answer := do
  let (head, rest) ← Head.takeFinal? octets.length octets
  let framing ← head.framing?
  match framing.take? ended rest with
  | none => some ⟨head, none, false⟩
  | some (body, left) =>
    some ⟨head, some body,
      !ended && head.keepsAlive && left.isEmpty && head.status ≠ 101⟩

def isRedirect (status : Nat) : Bool :=
  [301, 302, 303, 307, 308].contains status

/-- A client is sent on with what it posted only by these. -/
def keepsMethod (status : Nat) : Bool :=
  status = 307 || status = 308

/-- Where a client is sent on to by the answer to a request for `target`. -/
def next? (answer : Answer) (target : Target) : Option Destination :=
  if isRedirect answer.head.status then do
    let location ← (answer.head.values "location").head?
    destination? target location
  else none

end Answer

/-- A request: whether it posts the body or only gets, and its line's other parts. -/
structure Request where
  posts : Bool
  target : Target
  version : Version
  deriving DecidableEq, Repr

def Request.line (request : Request) : String :=
  (if request.posts then "POST " else "GET ") ++ String.ofList request.target.text ++ " " ++
    request.version.name

/-- A server as its clients meet it: whether it takes new connections, what it
answers to each request, and whether it then ends the connection. -/
structure Server where
  listens : Bool
  reply : List UInt8
  closes : Bool
  deriving DecidableEq, Repr

/-- What came of a visit. Without an answer it failed. A kept connection goes on in
the version of its last answer. -/
structure Visit where
  requests : List Request
  answer : Option Answer
  kept : Option Version
  deriving DecidableEq, Repr

/-- This often a client lets itself be sent on. -/
def maxRedirects : Nat := 10

/-- A visit that begins with a request for `target`, on the kept connection if there
is one. -/
def Server.visit (server : Server) (redirects : Nat) (kept : Option Version)
    (posts : Bool) (target : Target) : Visit :=
  if Target.maxLength < target.text.length then ⟨[], none, none⟩
  else if kept.isNone && !server.listens then ⟨[], none, none⟩
  else
    let request : Request := ⟨posts, target, kept.getD .http11⟩
    match Answer.read? server.closes server.reply with
    | none => ⟨[request], none, none⟩
    | some answer =>
      let kept := if answer.isReusable then some answer.head.version else none
      match answer.next? target with
      | none => ⟨[request], some answer, kept⟩
      | some .elsewhere => ⟨[request], none, none⟩
      | some (.here target) =>
        match redirects with
        | 0 => ⟨[request], none, none⟩
        | redirects + 1 =>
          let later := server.visit redirects kept
            (posts && Answer.keepsMethod answer.head.status) target
          { later with requests := request :: later.requests }

end Telemetry.Http
