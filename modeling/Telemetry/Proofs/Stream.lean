import Telemetry.Proofs.Writing

/-!
Every persistent connection as a stream. Whatever the network does over a run of
sends, the octets that one connection takes are frames of different sends in the order
of these sends, with at most a front part of one more frame behind them. A reader that
counts octets therefore finds every request but perhaps the last.

The run starts without a connection and may use the transport in any way. A connection
is a number, so that it is known over the whole run. All rests on one fact: the number
of a connection that was let go is never held again.
-/

namespace Telemetry

/-- A send in the state in which it starts, with what the network does during it. -/
structure Exchange where
  before : Persistent
  auth : Auth
  report : Report
  network : Network

/-- A use of a persistent transport. -/
inductive Persistent.Use
  | send (auth : Auth) (report : Report) (network : Network)
  | close

/-- The frame of the next send, unless its call has no form. -/
def Persistent.frame? (t : Persistent) (auth : Auth) (report : Report) :
    Option (List UInt8) :=
  match t.format.encodeCall ⟨reportMethod, t.seqId + 1, auth, report⟩ with
  | .error _ => none
  | .ok body => some (Frame.post t.endpoint t.format.contentType body)

/-- The connection on which a send wrote. -/
def Persistent.Sent.connection? (sent : Persistent.Sent) : Option Nat :=
  sent.written.map (·.connection)

/-- The octets that this connection took. -/
def Persistent.Sent.octets (sent : Persistent.Sent) : List UInt8 :=
  (sent.written.map (·.chunks.flatten)).getD []

namespace Exchange

def sent (e : Exchange) : Persistent.Sent :=
  e.before.send e.auth e.report e.network

def after (e : Exchange) : Persistent :=
  e.sent.sending.next

def answer (e : Exchange) : Answer :=
  e.sent.sending.answer

def frame? (e : Exchange) : Option (List UInt8) :=
  e.before.frame? e.auth e.report

def connection? (e : Exchange) : Option Nat :=
  e.sent.connection?

def octets (e : Exchange) : List UInt8 :=
  e.sent.octets

/-- The connection to write on, once the send has a frame. -/
def reached (e : Exchange) : Persistent.Reached :=
  { e.before with seqId := e.before.seqId + 1 }.reach e.network

/-- No index into the frame passes 64 bits while it is written. -/
def Fits (e : Exchange) : Prop :=
  ∀ frame ∈ e.frame?, frame.length + e.before.connect.maxBytesPerWrite < 0x10000000000000000

instance (e : Exchange) : Decidable e.Fits :=
  inferInstanceAs (Decidable (∀ frame ∈ e.frame?, _))

/-- The connection took the frame and nothing else. -/
def Whole (e : Exchange) : Prop :=
  e.frame? = some e.octets

/-- The connection took a front part of the frame and no more. -/
def Torn (e : Exchange) : Prop :=
  ∃ frame, e.frame? = some frame ∧ e.octets <+: frame ∧ e.octets ≠ frame

/-- The connection on which the send writes is one that flushes. -/
def Flushed (e : Exchange) : Prop :=
  ∃ connection conduct, e.connection? = some connection ∧
    e.reached.result = .ok (connection, conduct) ∧ conduct.flushError = none

/-- The send drains a connection and finds its end. -/
def DrainEnds (e : Exchange) (connection : Nat) : Prop :=
  e.frame?.isSome ∧ e.before.held = some connection ∧ Persistent.Ends e.network.held

end Exchange

namespace Persistent

/-- The sends of a run, each in the state in which it starts. -/
def sends (t : Persistent) : List Use → List Exchange
  | [] => []
  | .send auth report network :: uses =>
    let e : Exchange := ⟨t, auth, report, network⟩
    e :: e.after.sends uses
  | .close :: uses => t.close.sends uses

/-- The sends that write on a connection. -/
def writers (connection : Nat) (exchanges : List Exchange) : List Exchange :=
  exchanges.filter (·.connection? = some connection)

/-- All that a connection takes. -/
def accepted (connection : Nat) (exchanges : List Exchange) : List UInt8 :=
  (writers connection exchanges).flatMap (·.octets)

/-! ## Reaching a connection -/

/-- What changes while a connection is looked for: the addresses, and after success
the held connection and the number of connections. -/
theorem resolve_snd (t : Persistent) (network : Network) :
    ∃ addresses, (t.resolve network).2 = { t with addresses } := by
  unfold resolve
  split
  · exact ⟨t.addresses, rfl⟩
  · split
    · exact ⟨t.addresses, rfl⟩
    · exact ⟨t.addresses, rfl⟩
    · exact ⟨_, rfl⟩

theorem resolve_error {t : Persistent} {network : Network} {error : TransportError}
    (hresolve : (t.resolve network).1 = .error error) : ∃ reason, error = .resolve reason := by
  unfold resolve at hresolve
  split at hresolve
  · cases hresolve
  · split at hresolve
    · exact ⟨_, (Except.error.inj hresolve).symm⟩
    · exact ⟨_, (Except.error.inj hresolve).symm⟩
    · cases hresolve

/-- No connection, and an error that counts no octets; or a new connection. -/
theorem openNew_cases (t : Persistent) (network : Network) :
    ∃ addresses,
      (∃ error remarks,
        t.openNew network = ⟨.error error, remarks, { t with addresses }⟩ ∧
        error.progress? = none) ∨
      ∃ conduct remarks,
        t.openNew network = ⟨.ok (t.metrics.connectionsOpened, conduct), remarks,
          { t with
            addresses
            held := some t.metrics.connectionsOpened
            metrics := { t.metrics with
              connectionsOpened := t.metrics.connectionsOpened + 1 } }⟩ := by
  obtain ⟨addresses, hnext⟩ := resolve_snd t network
  refine ⟨addresses, ?_⟩
  unfold openNew
  cases hresolve : (t.resolve network).1 with
  | error error =>
    obtain ⟨reason, rfl⟩ := resolve_error hresolve
    exact Or.inl ⟨.resolve reason, [], by simp only [hresolve, hnext], rfl⟩
  | ok found =>
    simp only [hresolve, hnext]
    split
    next failure _ => exact Or.inl ⟨failure.error, _, rfl, failure.progress?_error⟩
    next conduct _ => exact Or.inr ⟨conduct, _, rfl⟩

/-- No connection, and none is held; or the held one, which is still open; or the next
new one. -/
theorem reach_cases (t : Persistent) (network : Network) :
    (∃ error, (t.reach network).result = .error error ∧
      error.progress? = none ∧ (t.reach network).next.held = none ∧
      (t.reach network).next.metrics = t.metrics) ∨
    ∃ connection conduct, (t.reach network).result = .ok (connection, conduct) ∧
      (t.reach network).next.held = some connection ∧
      (t.reach network).next.connect = t.connect ∧
      (t.held = some connection ∧ staysOpen network.held = true ∧
          (t.reach network).next.metrics = t.metrics ∨
        connection = t.metrics.connectionsOpened ∧
          (t.reach network).next.metrics.connectionsOpened = connection + 1) := by
  unfold reach
  cases hheld : t.held with
  | none =>
    obtain ⟨addresses, ⟨error, remarks, hnew, hprogress⟩ | ⟨conduct, remarks, hnew⟩⟩ :=
      openNew_cases t network
    · rw [hnew]
      exact Or.inl ⟨error, rfl, hprogress, hheld, rfl⟩
    · rw [hnew]
      exact Or.inr ⟨_, conduct, rfl, rfl, rfl, Or.inr ⟨rfl, rfl⟩⟩
  | some number =>
    cases hopen : staysOpen network.held with
    | true => exact Or.inr ⟨number, network.held, rfl, hheld, rfl, Or.inl ⟨rfl, rfl, rfl⟩⟩
    | false =>
      obtain ⟨addresses, ⟨error, remarks, hnew, hprogress⟩ | ⟨conduct, remarks, hnew⟩⟩ :=
        openNew_cases { t with held := none } network
      · rw [hnew]
        exact Or.inl ⟨error, rfl, hprogress, rfl, rfl⟩
      · rw [hnew]
        exact Or.inr ⟨_, conduct, rfl, rfl, rfl, Or.inr ⟨rfl, rfl⟩⟩

/-! ## One send -/

/-- No connection could be reached. -/
theorem sendFrame_error {t : Persistent} {frame : List UInt8} {network : Network}
    {error : TransportError} (herror : (t.reach network).result = .error error) :
    t.sendFrame frame network =
      ⟨(t.reach network).next.fail error (t.reach network).remarks, none⟩ := by
  unfold sendFrame
  simp only [herror]

/-- What the writing of a frame came to: the frame was written and flushed and the
connection is kept, or it was not and the connection was let go. -/
def Sent.Ended (sent : Sent) (connection : Nat) (conduct : Conduct) (frame : List UInt8) :
    Prop :=
  (sent.sending.answer = .settled .unconfirmed ∧ sent.sending.next.held = some connection ∧
    sent.octets = frame ∧ conduct.flushError = none) ∨
  ∃ error, sent.sending.answer = .settled (.failed error) ∧ sent.sending.next.held = none ∧
    sent.octets <+: frame ∧ (sent.octets = frame → conduct.flushError ≠ none) ∧
    error.progress? = some (sent.octets.length, frame.length)

theorem sendFrame_ok {t : Persistent} {frame : List UInt8} {network : Network}
    {connection : Nat} {conduct : Conduct}
    (hreached : (t.reach network).result = .ok (connection, conduct))
    (hheld : (t.reach network).next.held = some connection)
    (hconnect : (t.reach network).next.connect = t.connect)
    (hroom : frame.length + t.connect.maxBytesPerWrite < 0x10000000000000000) :
    (t.sendFrame frame network).connection? = some connection ∧
    (t.sendFrame frame network).sending.next.metrics.connectionsOpened =
      (t.reach network).next.metrics.connectionsOpened ∧
    (t.sendFrame frame network).Ended connection conduct frame := by
  obtain ⟨hcomplete, hall, hflush⟩ | ⟨error, hfailed, hfront, hwhole, hprogress⟩ :=
    writeAll_cases ⟨frame.length, (t.reach network).next.connect.maxBytesPerWrite,
      (t.reach network).next.debug⟩ frame conduct rfl (by rw [hconnect]; exact hroom)
  · unfold sendFrame
    dsimp only
    rw [hreached]
    dsimp only
    rw [hcomplete]
    exact ⟨rfl, rfl, Or.inl ⟨rfl, hheld, hall, hflush⟩⟩
  · have hfatal : error.isConnectionFatal = true :=
      TransportError.isConnectionFatal_of_progress? hprogress
    unfold sendFrame
    dsimp only
    rw [hreached]
    dsimp only
    rw [hfailed]
    refine ⟨rfl, rfl, Or.inr ⟨error, rfl, ?_, hfront, hwhole, hprogress⟩⟩
    simp only [fail, hfatal, if_true]

end Persistent

namespace Exchange

/-- Nothing was written, and the answer is an error that counts no octets. -/
structure Silent (e : Exchange) : Prop where
  nowhere : e.connection? = none
  held : e.frame? = none ∧ e.after.held = e.before.held ∨ e.after.held = none
  opened : e.after.metrics.connectionsOpened = e.before.metrics.connectionsOpened
  answer : ∃ error, e.answer = .settled (.failed error) ∧ error.progress? = none

/-- A frame was written, all or in part, on a connection that had stayed open or is
new. -/
structure Wrote (e : Exchange) (connection : Nat) (conduct : Conduct)
    (frame : List UInt8) : Prop where
  framed : e.frame? = some frame
  reached : e.reached.result = .ok (connection, conduct)
  somewhere : e.connection? = some connection
  origin :
    e.before.held = some connection ∧ Persistent.staysOpen e.network.held = true ∧
      e.after.metrics.connectionsOpened = e.before.metrics.connectionsOpened ∨
    connection = e.before.metrics.connectionsOpened ∧
      e.after.metrics.connectionsOpened = connection + 1
  ended : e.sent.Ended connection conduct frame

theorem sent_of_frame? {e : Exchange} {frame : List UInt8} (hframe : e.frame? = some frame) :
    e.sent = { e.before with seqId := e.before.seqId + 1 }.sendFrame frame e.network := by
  unfold frame? Persistent.frame? at hframe
  unfold sent Persistent.send
  split at hframe
  · cases hframe
  · next body hencode =>
    simp only [hencode]
    rw [Option.some.inj hframe]

/-- A call that cannot be written leaves the connection alone. -/
theorem sent_of_frame?_none {e : Exchange} (hframe : e.frame? = none) :
    ∃ error, e.sent = ⟨⟨[], .settled (.failed (.encode error)),
      { e.before with
        seqId := e.before.seqId + 1
        metrics := Persistent.failedOnce e.before.metrics }⟩, none⟩ := by
  unfold frame? Persistent.frame? at hframe
  unfold sent Persistent.send
  split at hframe
  · next error hencode => exact ⟨error, by simp only [hencode]⟩
  · cases hframe

theorem silent_of_frame?_none {e : Exchange} (hframe : e.frame? = none) : e.Silent := by
  obtain ⟨error, hsent⟩ := sent_of_frame?_none hframe
  refine ⟨?_, Or.inl ⟨hframe, ?_⟩, ?_, .encode error, ?_, rfl⟩
  · rw [connection?, hsent]
    rfl
  · rw [after, hsent]
  · rw [after, hsent]
    rfl
  · rw [answer, hsent]

theorem silent_of_unreached {e : Exchange} {frame : List UInt8} {error : TransportError}
    (hframe : e.frame? = some frame) (herror : e.reached.result = .error error)
    (hprogress : error.progress? = none) (hheld : e.reached.next.held = none)
    (hmetrics : e.reached.next.metrics = e.before.metrics) : e.Silent := by
  have hsent : e.sent = ⟨e.reached.next.fail error e.reached.remarks, none⟩ :=
    (sent_of_frame? hframe).trans (Persistent.sendFrame_error herror)
  refine ⟨?_, Or.inr ?_, ?_, error, ?_, hprogress⟩
  · rw [connection?, hsent]
    rfl
  · rw [after, hsent]
    simp only [Persistent.fail, hheld, ite_self]
  · rw [after, hsent]
    simp only [Persistent.fail, Persistent.failedOnce, hmetrics]
  · rw [answer, hsent]
    rfl

/-- A send writes nothing, or writes on one connection. -/
theorem cases {e : Exchange} (hfits : e.Fits) :
    e.Silent ∨ ∃ connection conduct frame, e.Wrote connection conduct frame := by
  cases hframe : e.frame? with
  | none => exact Or.inl (silent_of_frame?_none hframe)
  | some frame =>
    rcases Persistent.reach_cases { e.before with seqId := e.before.seqId + 1 } e.network with
      ⟨error, herror, hprogress, hheld, hmetrics⟩ |
      ⟨connection, conduct, hreached, hheld, hconnect, horigin⟩
    · exact Or.inl (silent_of_unreached hframe herror hprogress hheld hmetrics)
    · obtain ⟨hsomewhere, hopened, hended⟩ :=
        Persistent.sendFrame_ok hreached hheld hconnect (hfits frame hframe)
      rw [← sent_of_frame? hframe] at hsomewhere hopened hended
      refine Or.inr ⟨connection, conduct, frame, hframe, hreached, hsomewhere, ?_, hended⟩
      rcases horigin with ⟨hbefore, hopen, hmetrics⟩ | ⟨hnew, hnext⟩
      · exact Or.inl ⟨hbefore, hopen, by rw [after, hopened, hmetrics]⟩
      · exact Or.inr ⟨hnew, hopened.trans hnext⟩

theorem unconfirmed_iff {e : Exchange} (hfits : e.Fits) :
    e.answer = .settled .unconfirmed ↔ e.Whole ∧ e.Flushed := by
  rcases cases hfits with hsilent | ⟨connection, conduct, frame, hwrote⟩
  · obtain ⟨error, hanswer, _⟩ := hsilent.answer
    constructor
    · intro hunconfirmed
      rw [hanswer] at hunconfirmed
      cases hunconfirmed
    · rintro ⟨_, connection, _, hsomewhere, _⟩
      rw [hsilent.nowhere] at hsomewhere
      cases hsomewhere
  · rcases hwrote.ended with ⟨hanswer, _, hall, hflush⟩ | ⟨error, hanswer, _, _, hunflushed, _⟩
    · refine ⟨fun _ => ⟨?_, connection, conduct, hwrote.somewhere, hwrote.reached, hflush⟩,
        fun _ => hanswer⟩
      exact hwrote.framed.trans (congrArg some hall.symm)
    · constructor
      · intro hunconfirmed
        rw [answer, hanswer] at hunconfirmed
        cases hunconfirmed
      · rintro ⟨hwhole, _, other, _, hreached, hflush⟩
        have hall : e.octets = frame :=
          Option.some.inj (hwhole.symm.trans hwrote.framed)
        have hsame : conduct = other := by
          rw [hwrote.reached] at hreached
          exact (Prod.mk.inj (Except.ok.inj hreached)).2
        exact absurd (hsame ▸ hflush) (hunflushed hall)

theorem progress_of_failed {e : Exchange} (hfits : e.Fits) {error : TransportError}
    {taken total : Nat} (hanswer : e.answer = .settled (.failed error))
    (hprogress : error.progress? = some (taken, total)) :
    taken = e.octets.length ∧ ∃ frame, e.frame? = some frame ∧ total = frame.length := by
  rcases cases hfits with hsilent | ⟨connection, conduct, frame, hwrote⟩
  · obtain ⟨other, hother, hnone⟩ := hsilent.answer
    rw [hanswer] at hother
    cases hother
    rw [hprogress] at hnone
    cases hnone
  · rcases hwrote.ended with ⟨hother, _⟩ | ⟨other, hother, _, _, _, hcount⟩
    · rw [← answer, hanswer] at hother
      cases hother
    · rw [← answer, hanswer] at hother
      cases hother
      rw [hprogress] at hcount
      cases hcount
      exact ⟨rfl, frame, hwrote.framed, rfl⟩

end Exchange

/-! ## A run -/

namespace Persistent

/-- The held connection is one of those opened. -/
def Counted (t : Persistent) : Prop :=
  ∀ connection, t.held = some connection → connection < t.metrics.connectionsOpened

/-- The connection was opened, and is not held any more. -/
def LetGo (t : Persistent) (connection : Nat) : Prop :=
  connection < t.metrics.connectionsOpened ∧ t.held ≠ some connection

end Persistent

namespace Exchange

open Persistent

theorem Wrote.held {e : Exchange} {connection : Nat} {conduct : Conduct}
    {frame : List UInt8} (hwrote : e.Wrote connection conduct frame) :
    e.after.held = some connection ∨ e.after.held = none := by
  rcases hwrote.ended with ⟨_, hheld, _⟩ | ⟨_, _, hheld, _⟩
  · exact Or.inl hheld
  · exact Or.inr hheld

theorem Wrote.opened {e : Exchange} {connection : Nat} {conduct : Conduct}
    {frame : List UInt8} (hwrote : e.Wrote connection conduct frame)
    (hcounted : e.before.Counted) : connection < e.after.metrics.connectionsOpened := by
  rcases hwrote.origin with ⟨hheld, _, hopened⟩ | ⟨_, hopened⟩
  · rw [hopened]
    exact hcounted connection hheld
  · omega

theorem counted_after {e : Exchange} (hfits : e.Fits) (hcounted : e.before.Counted) :
    e.after.Counted := by
  intro held hafter
  rcases cases hfits with hsilent | ⟨connection, conduct, frame, hwrote⟩
  · rcases hsilent.held with ⟨_, hheld⟩ | hheld
    · rw [hsilent.opened]
      exact hcounted held (hheld.symm.trans hafter)
    · rw [hheld] at hafter
      cases hafter
  · rcases hwrote.held with hheld | hheld
    · rw [hheld] at hafter
      cases hafter
      exact hwrote.opened hcounted
    · rw [hheld] at hafter
      cases hafter

theorem Silent.letGo {e : Exchange} (hsilent : e.Silent) {connection : Nat}
    (hopened : connection < e.before.metrics.connectionsOpened)
    (hheld : e.after.held ≠ some connection) :
    e.connection? ≠ some connection ∧ e.after.LetGo connection := by
  refine ⟨?_, ?_, hheld⟩
  · rw [hsilent.nowhere]
    exact nofun
  · rw [hsilent.opened]
    exact hopened

theorem Wrote.letGo_other {e : Exchange} {connection other : Nat} {conduct : Conduct}
    {frame : List UInt8} (hwrote : e.Wrote other conduct frame) (hdiffer : other ≠ connection)
    (hopened : connection < e.after.metrics.connectionsOpened) :
    e.connection? ≠ some connection ∧ e.after.LetGo connection := by
  have hother : some other ≠ some connection := fun hsame => hdiffer (Option.some.inj hsame)
  refine ⟨?_, hopened, ?_⟩
  · rw [hwrote.somewhere]
    exact hother
  · rcases hwrote.held with hheld | hheld
    · rw [hheld]
      exact hother
    · rw [hheld]
      exact nofun

/-- A send writes nothing on a connection that was let go, and does not take it back. -/
theorem letGo_after {e : Exchange} (hfits : e.Fits) {connection : Nat}
    (hgone : e.before.LetGo connection) :
    e.connection? ≠ some connection ∧ e.after.LetGo connection := by
  obtain ⟨hlt, hne⟩ := hgone
  rcases cases hfits with hsilent | ⟨other, conduct, frame, hwrote⟩
  · refine hsilent.letGo hlt ?_
    rcases hsilent.held with ⟨_, hheld⟩ | hheld
    · rw [hheld]
      exact hne
    · rw [hheld]
      exact nofun
  · rcases hwrote.origin with ⟨hheld, _, hopened⟩ | ⟨hnew, hopened⟩
    · exact hwrote.letGo_other (fun hsame => hne (hsame ▸ hheld)) (hopened ▸ hlt)
    · exact hwrote.letGo_other (by omega) (by omega)

/-- A connection is let go once a drain has found its end, and this send does not
write on it either. -/
theorem letGo_of_drainEnds {e : Exchange} (hfits : e.Fits) (hcounted : e.before.Counted)
    {connection : Nat} (hends : e.DrainEnds connection) :
    e.connection? ≠ some connection ∧ e.after.LetGo connection := by
  obtain ⟨hframe, hheld, hend⟩ := hends
  have hlt := hcounted connection hheld
  have hclosed := (staysOpen_eq_false_iff e.network.held).mpr hend
  rcases cases hfits with hsilent | ⟨other, conduct, frame, hwrote⟩
  · refine hsilent.letGo hlt ?_
    rcases hsilent.held with ⟨hnone, _⟩ | hnone
    · rw [hnone] at hframe
      cases hframe
    · rw [hnone]
      exact nofun
  · rcases hwrote.origin with ⟨_, hopen, _⟩ | ⟨hnew, hopened⟩
    · rw [hclosed] at hopen
      cases hopen
    · exact hwrote.letGo_other (by omega) (by omega)

/-- A connection that did not take the whole frame is let go. -/
theorem whole_or_torn {e : Exchange} (hfits : e.Fits) (hcounted : e.before.Counted)
    {connection : Nat} (hsomewhere : e.connection? = some connection) :
    e.Whole ∨ e.Torn ∧ e.after.LetGo connection := by
  rcases cases hfits with hsilent | ⟨other, conduct, frame, hwrote⟩
  · rw [hsilent.nowhere] at hsomewhere
    cases hsomewhere
  · have hsame : other = connection :=
      Option.some.inj (hwrote.somewhere.symm.trans hsomewhere)
    subst hsame
    rcases hwrote.ended with ⟨_, _, hall, _⟩ | ⟨_, _, hnone, hfront, _, _⟩
    · exact Or.inl (hwrote.framed.trans (congrArg some hall.symm))
    · by_cases hall : e.octets = frame
      · exact Or.inl (hwrote.framed.trans (congrArg some hall.symm))
      · refine Or.inr ⟨⟨frame, hwrote.framed, hfront, hall⟩, hwrote.opened hcounted, ?_⟩
        rw [after, hnone]
        exact nofun

end Exchange

namespace Persistent

theorem counted_close (t : Persistent) : t.close.Counted := by
  intro connection hheld
  cases hheld

theorem letGo_close {t : Persistent} {connection : Nat} (hgone : t.LetGo connection) :
    t.close.LetGo connection :=
  ⟨hgone.1, nofun⟩

theorem sends_send (t : Persistent) (auth : Auth) (report : Report) (network : Network)
    (uses : List Use) :
    t.sends (.send auth report network :: uses) =
      ⟨t, auth, report, network⟩ ::
        (⟨t, auth, report, network⟩ : Exchange).after.sends uses :=
  rfl

theorem sends_close (t : Persistent) (uses : List Use) :
    t.sends (.close :: uses) = t.close.sends uses :=
  rfl

theorem writers_cons_of_eq {e : Exchange} {connection : Nat}
    (hsomewhere : e.connection? = some connection) (exchanges : List Exchange) :
    writers connection (e :: exchanges) = e :: writers connection exchanges :=
  List.filter_cons_of_pos (by simpa using hsomewhere)

theorem writers_cons_of_ne {e : Exchange} {connection : Nat}
    (hnowhere : e.connection? ≠ some connection) (exchanges : List Exchange) :
    writers connection (e :: exchanges) = writers connection exchanges :=
  List.filter_cons_of_neg (by simpa using hnowhere)

theorem writers_of_letGo {t : Persistent} {connection : Nat} (hgone : t.LetGo connection)
    (uses : List Use) (hfits : ∀ e ∈ t.sends uses, e.Fits) :
    writers connection (t.sends uses) = [] := by
  induction uses generalizing t with
  | nil => rfl
  | cons use uses ih =>
    cases use with
    | close =>
      rw [sends_close] at hfits ⊢
      exact ih (letGo_close hgone) hfits
    | send auth report network =>
      rw [sends_send] at hfits ⊢
      obtain ⟨hfirst, hrest⟩ := List.forall_mem_cons.mp hfits
      obtain ⟨hnowhere, hgone⟩ := Exchange.letGo_after hfirst hgone
      exact (writers_cons_of_ne hnowhere _).trans (ih hgone hrest)

theorem writers_split {t : Persistent} (hcounted : t.Counted) (uses : List Use)
    (hfits : ∀ e ∈ t.sends uses, e.Fits) (connection : Nat) :
    ∃ (whole : List Exchange) (torn : Option Exchange),
      writers connection (t.sends uses) = whole ++ torn.toList ∧
      (∀ e ∈ whole, e.Whole) ∧ ∀ e ∈ torn, e.Torn := by
  induction uses generalizing t with
  | nil => exact ⟨[], none, rfl, List.forall_mem_nil _,
      fun e hmember => absurd hmember (Option.not_mem_none e)⟩
  | cons use uses ih =>
    cases use with
    | close =>
      rw [sends_close] at hfits ⊢
      exact ih (counted_close t) hfits
    | send auth report network =>
      rw [sends_send] at hfits ⊢
      obtain ⟨hfirst, hrest⟩ := List.forall_mem_cons.mp hfits
      have hafter := Exchange.counted_after hfirst hcounted
      by_cases hsomewhere :
          (⟨t, auth, report, network⟩ : Exchange).connection? = some connection
      · rcases Exchange.whole_or_torn hfirst hcounted hsomewhere with hwhole | ⟨htorn, hgone⟩
        · obtain ⟨whole, torn, hwriters, hwholes, htorn⟩ := ih hafter hrest
          refine ⟨⟨t, auth, report, network⟩ :: whole, torn, ?_,
            List.forall_mem_cons.mpr ⟨hwhole, hwholes⟩, htorn⟩
          rw [writers_cons_of_eq hsomewhere, hwriters, List.cons_append]
        · -- The connection is let go, so no later send writes on it.
          refine ⟨[], some ⟨t, auth, report, network⟩, ?_, List.forall_mem_nil _, ?_⟩
          · rw [writers_cons_of_eq hsomewhere, writers_of_letGo hgone uses hrest]
            rfl
          · intro e hmember
            rw [← Option.mem_some.mp hmember]
            exact htorn
      · obtain ⟨whole, torn, hwriters, hrest⟩ := ih hafter hrest
        refine ⟨whole, torn, ?_, hrest⟩
        rw [writers_cons_of_ne hsomewhere, hwriters]

/-- What comes before and after one send of a run. -/
theorem sends_at {t : Persistent} (hcounted : t.Counted) {uses : List Use}
    (hfits : ∀ e ∈ t.sends uses, e.Fits) {earlier later : List Exchange} {e : Exchange}
    (hsends : t.sends uses = earlier ++ e :: later) :
    e.before.Counted ∧ ∃ rest, later = e.after.sends rest := by
  induction uses generalizing t earlier with
  | nil => cases earlier <;> cases hsends
  | cons use uses ih =>
    cases use with
    | close =>
      rw [sends_close] at hfits hsends
      exact ih (counted_close t) hfits hsends
    | send auth report network =>
      rw [sends_send] at hfits hsends
      obtain ⟨hfirst, hrest⟩ := List.forall_mem_cons.mp hfits
      cases earlier with
      | nil =>
        obtain ⟨rfl, rfl⟩ := List.cons.inj hsends
        exact ⟨hcounted, uses, rfl⟩
      | cons first earlier =>
        exact ih (Exchange.counted_after hfirst hcounted) hrest (List.cons.inj hsends).2

/-- What the connections take of a run, and what its sends say of it. -/
structure Streamed (exchanges : List Exchange) : Prop where
  /-- Whole frames of different sends in the order of these, and then at most a front
  part of the frame of one more; nothing is written after such a part. -/
  frames : ∀ connection, ∃ (whole : List Exchange) (torn : Option Exchange),
    writers connection exchanges = whole ++ torn.toList ∧
    (∀ e ∈ whole, e.Whole) ∧ (∀ e ∈ torn, e.Torn) ∧
    accepted connection exchanges =
      (whole.filterMap (·.frame?)).flatten ++ (torn.map (·.octets)).getD []
  /-- A send leaves octets on one connection at most. -/
  oneConnection : ∀ e ∈ exchanges, ∀ first second,
    accepted first [e] ≠ [] → accepted second [e] ≠ [] → first = second
  /-- Nothing is written on a connection any more once a drain has found its end. -/
  drained : ∀ earlier e later connection, exchanges = earlier ++ e :: later →
    e.DrainEnds connection → writers connection (e :: later) = []
  /-- The answer tells whether the whole frame was written and flushed. -/
  unconfirmed : ∀ e ∈ exchanges, e.answer = .settled .unconfirmed ↔ e.Whole ∧ e.Flushed
  /-- The error of a write counts the octets that were taken. -/
  counts : ∀ e ∈ exchanges, ∀ error taken total,
    e.answer = .settled (.failed error) → error.progress? = some (taken, total) →
    taken = e.octets.length ∧ ∃ frame, e.frame? = some frame ∧ total = frame.length

theorem connection?_of_accepted {e : Exchange} {connection : Nat}
    (haccepted : accepted connection [e] ≠ []) : e.connection? = some connection := by
  refine Decidable.byContradiction fun hnowhere => haccepted ?_
  unfold accepted
  rw [writers_cons_of_ne hnowhere]
  rfl

theorem flatMap_octets {whole : List Exchange} (hwhole : ∀ e ∈ whole, e.Whole) :
    whole.flatMap (·.octets) = (whole.filterMap (·.frame?)).flatten := by
  induction whole with
  | nil => rfl
  | cons e whole ih =>
    obtain ⟨hfirst, hrest⟩ := List.forall_mem_cons.mp hwhole
    rw [List.flatMap_cons, List.filterMap_cons_some hfirst, List.flatten_cons, ih hrest]

/-- The octets of every connection are frames, the last perhaps torn, and each send
tells what became of its own. -/
theorem streamed (t : Persistent) (uses : List Use) (hheld : t.held = none)
    (hfits : ∀ e ∈ t.sends uses, e.Fits) : Streamed (t.sends uses) := by
  have hcounted : t.Counted := by
    intro connection hsome
    rw [hheld] at hsome
    cases hsome
  constructor
  case frames =>
    intro connection
    obtain ⟨whole, torn, hwriters, hwhole, htorn⟩ :=
      writers_split hcounted uses hfits connection
    refine ⟨whole, torn, hwriters, hwhole, htorn, ?_⟩
    unfold accepted
    rw [hwriters, List.flatMap_append, flatMap_octets hwhole]
    cases torn with
    | none => rfl
    | some e => exact congrArg _ (List.append_nil e.octets)
  case oneConnection =>
    intro e _ first second hfirst hsecond
    exact Option.some.inj
      ((connection?_of_accepted hfirst).symm.trans (connection?_of_accepted hsecond))
  case drained =>
    intro earlier e later connection hsends hends
    obtain ⟨hbefore, rest, rfl⟩ := sends_at hcounted hfits hsends
    have hmember : ∀ e' ∈ e :: e.after.sends rest, e'.Fits := fun e' he' =>
      hfits e' (hsends ▸ List.mem_append_right earlier he')
    obtain ⟨hfirst, hrest⟩ := List.forall_mem_cons.mp hmember
    obtain ⟨hnowhere, hgone⟩ := Exchange.letGo_of_drainEnds hfirst hbefore hends
    rw [writers_cons_of_ne hnowhere]
    exact writers_of_letGo hgone rest hrest
  case unconfirmed => exact fun e he => Exchange.unconfirmed_iff (hfits e he)
  case counts => exact fun e he _ _ _ => Exchange.progress_of_failed (hfits e he)

/-- Frames of a hundred and ten octets, in writes of a hundred at most. -/
def Dial.transport : Persistent where
  endpoint := ⟨.plain, "", 80, "/"⟩
  format := ⟨"", fun _ => .ok [1, 2, 3], fun _ => .error (.decode "")⟩
  connect := { maxBytesPerWrite := 100 }

def Dial.send (held fresh : Conduct) : Use :=
  .send ⟨""⟩ ⟨⟨"", 0, ""⟩, 1, 2, [], [], []⟩ ⟨.ok [""], fun _ => .ok fresh, held⟩

/-- The first connection is found closed after one frame, and the second breaks inside
one. -/
def Dial.uses : List Use :=
  [Dial.send {} { writes := [.interrupted, .took 30] },
    Dial.send { reads := [.took 7, .took 0] } { writes := [.took 90, .failed "reset"] },
    Dial.send {} {}]

/-- Three connections in three sends. The second has a torn frame, and its send says
where. -/
theorem streamed_dial :
    (∀ e ∈ Dial.transport.sends Dial.uses, e.Fits) ∧
    ((Dial.transport.sends Dial.uses).map fun e =>
        (e.connection?, e.octets.length, e.answer)) =
      [(some 0, 110, .settled .unconfirmed),
        (some 1, 90, .settled (.failed (.write 90 110 "reset"))),
        (some 2, 110, .settled .unconfirmed)] ∧
    Streamed (Dial.transport.sends Dial.uses) := by
  have hrun : (∀ e ∈ Dial.transport.sends Dial.uses, e.Fits) ∧
      ((Dial.transport.sends Dial.uses).map fun e =>
          (e.connection?, e.octets.length, e.answer)) =
        [(some 0, 110, .settled .unconfirmed),
          (some 1, 90, .settled (.failed (.write 90 110 "reset"))),
          (some 2, 110, .settled .unconfirmed)] := by
    decide +kernel
  exact ⟨hrun.1, hrun.2, streamed Dial.transport Dial.uses rfl hrun.1⟩

end Persistent

end Telemetry
