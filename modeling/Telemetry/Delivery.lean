import Telemetry.Codec
import Telemetry.Diagnostic

/-!
The delivery of one report: how it may turn out, and what a recorder asks of a
transport. A transport is given by its state and three functions on it, so a
statement over all transports is one over everything that a network may do.
-/

namespace Telemetry

inductive TransportError
  | resolve (reason : String)
  | connect (reason : String)
  | tls (reason : String)
  | write (sent total : Nat) (reason : String)
  | zeroWrite (sent total : Nat)
  | encode (error : CodecError)
  | http (reason : String)
  | status (code : Nat)
  | decode (reason : String)
  deriving DecidableEq, Repr

namespace TransportError

def message : TransportError → String
  | .resolve reason => s!"could not resolve {reason}"
  | .connect reason => s!"connect failed: {reason}"
  | .tls reason => s!"tls error: {reason}"
  | .write sent total reason => s!"write failed after {sent} of {total} bytes: {reason}"
  | .zeroWrite sent total => s!"zero bytes written to socket (sent {sent} of {total})"
  | .encode error => s!"encode failed: {error.message}"
  | .http reason => s!"http error: {reason}"
  | .status code => s!"collector returned HTTP {code}"
  | .decode reason => s!"response decode failed: {reason}"

/-- After such an error nothing more may be written on the connection. -/
def isConnectionFatal : TransportError → Bool
  | .connect _ | .tls _ | .write .. | .zeroWrite .. => true
  | _ => false

end TransportError

inductive Outcome
  | unconfirmed
  | delivered (response : Response)
  | failed (error : TransportError)
  deriving DecidableEq, Repr

/-- How a call to a transport ends. A panic gives no outcome; it goes on to
whoever asked for the flush. -/
inductive Answer
  | settled (outcome : Outcome)
  | panicked
  deriving DecidableEq, Repr

/-- What a transport says while it works on one report, how it ends, and the
state it is left in. -/
structure Sending (σ : Type) where
  remarks : List Diagnostic
  answer : Answer
  next : σ

structure Transport (σ : Type) where
  name : σ → String
  send : σ → Auth → Report → Sending σ
  close : σ → σ

/-- Takes every report and keeps none. -/
def Transport.null : Transport Unit where
  name _ := "null"
  send _ _ _ := ⟨[], .settled .unconfirmed, ()⟩
  close _ := ()

/-- One of two transports, whichever the state is a state of. -/
def Transport.sum {σ τ : Type} (S : Transport σ) (T : Transport τ) : Transport (σ ⊕ τ) where
  name
    | .inl s => S.name s
    | .inr t => T.name t
  send
    | .inl s, auth, report =>
      let sending := S.send s auth report
      ⟨sending.remarks, sending.answer, .inl sending.next⟩
    | .inr t, auth, report =>
      let sending := T.send t auth report
      ⟨sending.remarks, sending.answer, .inr sending.next⟩
  close
    | .inl s => .inl (S.close s)
    | .inr t => .inr (T.close t)

end Telemetry
