import Mathlib.Algebra.GroupWithZero.Nat
import Telemetry.Proofs.Opening

/-!
What a persistent transport keeps account of. After any run of sends its counters are
counts over these sends: how many were written and how many failed, the octets of those
that were written, and how many opened a connection. The sends carry consecutive numbers
whatever becomes of them, and the end of each decides whether a connection is held.
-/

namespace Telemetry

namespace Exchange

open Persistent

/-- The call that a send encodes. -/
def call (e : Exchange) : Call :=
  ⟨reportMethod, e.before.seqId + 1, e.auth, e.report⟩

theorem frame?_eq (e : Exchange) :
    e.frame? =
      (e.before.format.encodeCall e.call).toOption.map
        (Frame.post e.before.endpoint e.before.format.contentType) := by
  unfold frame? Persistent.frame? call
  cases e.before.format.encodeCall ⟨reportMethod, e.before.seqId + 1, e.auth, e.report⟩ with
  | error error => rfl
  | ok body => rfl

/-- The whole frame was written and flushed. -/
def isWritten (e : Exchange) : Bool :=
  e.answer = .settled .unconfirmed

/-- The send opened a connection: one of its tries succeeded. -/
def connects (e : Exchange) : Bool :=
  e.opens && e.tried.any (·.ending.isOk)

def frameLength (e : Exchange) : Nat :=
  (e.frame?.getD []).length

end Exchange

/-- The counters with some more sends: each is counted once, with its octets if it was
written. -/
def DeliveryMetrics.counting (m : DeliveryMetrics) (exchanges : List Exchange) : DeliveryMetrics where
  reportsWritten := m.reportsWritten + exchanges.countP (·.isWritten)
  reportsFailed := m.reportsFailed + exchanges.countP (!·.isWritten)
  connectionsOpened := m.connectionsOpened + exchanges.countP (·.connects)
  bytesWritten :=
    m.bytesWritten + ((exchanges.filter (·.isWritten)).map (·.frameLength)).sum

theorem DeliveryMetrics.counting_cons (m : DeliveryMetrics) (e : Exchange)
    (exchanges : List Exchange) : m.counting (e :: exchanges) = (m.counting [e]).counting exchanges := by
  have hsplit : e :: exchanges = [e] ++ exchanges := rfl
  rw [hsplit]
  simp only [DeliveryMetrics.counting, List.countP_append, List.filter_append, List.map_append,
    List.sum_append, Nat.add_assoc]

theorem DeliveryMetrics.counting_singleton (m : DeliveryMetrics) (e : Exchange) :
    m.counting [e] = {
      reportsWritten := m.reportsWritten + e.isWritten.toNat
      reportsFailed := m.reportsFailed + (!e.isWritten).toNat
      connectionsOpened := m.connectionsOpened + e.connects.toNat
      bytesWritten := m.bytesWritten + if e.isWritten then e.frameLength else 0 } := by
  unfold DeliveryMetrics.counting
  rw [List.countP_singleton, List.countP_singleton, List.countP_singleton]
  cases hwritten : e.isWritten <;> cases e.connects <;> simp [hwritten]

namespace Exchange

open Persistent

/-! ## One send -/

theorem connects_of_last {e : Exchange} (hopens : e.opens = true) {last : Trial}
    (hlast : e.tried.getLast? = some last) : e.connects = last.ending.isOk := by
  obtain ⟨earlier, hearlier⟩ := List.getLast?_eq_some_iff.mp hlast
  have hfailed : e.tried.dropLast.any (·.ending.isOk) = false := by
    rw [List.any_eq_false]
    intro trial hmember
    obtain ⟨failure, hending⟩ := failed_dropLast trial hmember
    rw [hending]
    exact Bool.false_ne_true
  rw [hearlier, List.dropLast_concat] at hfailed
  rw [connects, hopens, hearlier, List.any_append, hfailed]
  simp

/-- Looking for a connection counts the new one, and takes the number of the send. -/
theorem reached_next {e : Exchange} (hframe : e.frame?.isSome = true) :
    e.reached.next.seqId = e.before.seqId + 1 ∧
      e.reached.next.metrics = { e.before.metrics with
        connectionsOpened := e.before.metrics.connectionsOpened + e.connects.toNat } := by
  cases hopens : e.opens with
  | false =>
    obtain ⟨number, _, hreached⟩ := reached_of_open hframe hopens
    rw [hreached, connects, hopens]
    exact ⟨rfl, rfl⟩
  | true =>
    by_cases haddresses : e.addresses = []
    · have htried : e.tried = [] := by
        have hplaces : e.before.planned e.network = [] := by
          apply List.eq_nil_of_length_eq_zero
          rw [planned, length_tries, ← addresses, haddresses]
          rfl
        rw [tried, Persistent.tried, hplaces, trials]
      rw [(reached_unknown hopens haddresses).2, connects, htried, Bool.and_comm]
      exact ⟨rfl, rfl⟩
    · obtain ⟨last, hlast, ⟨conduct, hending, _, hnext⟩ | ⟨failure, hending, _, hnext⟩⟩ :=
        reached_known hopens haddresses
      · rw [hnext, connects_of_last hopens hlast, hending]
        exact ⟨rfl, rfl⟩
      · rw [hnext, connects_of_last hopens hlast, hending]
        exact ⟨rfl, rfl⟩

/-- Every send takes the next number, whatever becomes of it. -/
theorem seqId_after (e : Exchange) : e.after.seqId = e.before.seqId + 1 := by
  cases hframe : e.frame? with
  | none =>
    obtain ⟨error, hsent⟩ := sent_of_frame?_none hframe
    rw [after, hsent]
  | some frame =>
    have hsome : e.frame?.isSome = true := by rw [hframe]; rfl
    rw [after_of_frame? hframe, ← (reached_next hsome).1]
    cases e.answer with
    | panicked => rfl
    | settled outcome => cases outcome <;> rfl

theorem answer_cases {e : Exchange} (hfits : e.Fits) :
    e.answer = .settled .unconfirmed ∨ ∃ error, e.answer = .settled (.failed error) := by
  rcases cases hfits with hsilent | ⟨connection, conduct, frame, hwrote⟩
  · obtain ⟨error, hanswer, _⟩ := hsilent.answer
    exact Or.inr ⟨error, hanswer⟩
  · rcases hwrote.ended with ⟨hanswer, _⟩ | ⟨error, hanswer, _⟩
    · exact Or.inl hanswer
    · exact Or.inr ⟨error, hanswer⟩

theorem metrics_after {e : Exchange} (hfits : e.Fits) :
    e.after.metrics = e.before.metrics.counting [e] := by
  rw [DeliveryMetrics.counting_singleton]
  cases hframe : e.frame? with
  | none =>
    obtain ⟨error, hsent⟩ := sent_of_frame?_none hframe
    have hwritten : e.isWritten = false := by rw [isWritten, answer, hsent]; rfl
    have hconnects : e.connects = false := by rw [connects, opens, hframe]; rfl
    rw [after, hsent, hwritten, hconnects]
    rfl
  | some frame =>
    have hsome : e.frame?.isSome = true := by rw [hframe]; rfl
    have hlength : e.frameLength = frame.length := by rw [frameLength, hframe]; rfl
    rw [after_of_frame? hframe, hlength]
    rcases answer_cases hfits with hanswer | ⟨error, hanswer⟩
    · have hwritten : e.isWritten = true := by rw [isWritten, hanswer]; rfl
      rw [hanswer, hwritten]
      simp only [settled, (reached_next hsome).2]
      rfl
    · have hwritten : e.isWritten = false := by rw [isWritten, hanswer]; rfl
      rw [hanswer, hwritten]
      simp only [settled, (reached_next hsome).2]
      rfl

/-- A send with a frame that wrote nowhere has reached no connection. -/
theorem unreached_of_nowhere {e : Exchange} {frame : List UInt8} (hframe : e.frame? = some frame)
    (hnowhere : e.connection? = none) :
    ∃ error, e.reached.result = .error error ∧ e.answer = .settled (.failed error) := by
  cases hresult : e.reached.result with
  | error error =>
    refine ⟨error, rfl, ?_⟩
    rw [answer, sent_of_frame? hframe, sendFrame_error hresult]
    rfl
  | ok found =>
    have hreach : ({ e.before with seqId := e.before.seqId + 1 }.reach e.network).result =
        .ok found := hresult
    rw [connection?, sent_of_frame? hframe] at hnowhere
    unfold sendFrame at hnowhere
    dsimp only at hnowhere
    rw [hreach] at hnowhere
    dsimp only at hnowhere
    split at hnowhere
    · cases hnowhere
    · cases hnowhere
    · cases hnowhere

/-- What fails before the writing is not the encoding. -/
theorem not_encode_of_unreached {e : Exchange} (hframe : e.frame?.isSome = true)
    {error : TransportError} (hresult : e.reached.result = .error error) (reason : CodecError) :
    error ≠ .encode reason := by
  intro hencode
  rw [hencode] at hresult
  cases hopens : e.opens with
  | false =>
    obtain ⟨number, _, hreached⟩ := reached_of_open hframe hopens
    rw [hreached] at hresult
    cases hresult
  | true =>
    by_cases haddresses : e.addresses = []
    · obtain ⟨⟨name, hreached⟩, _⟩ := reached_unknown hopens haddresses
      rw [hreached] at hresult
      cases hresult
    · obtain ⟨_, _, ⟨_, _, hreached, _⟩ | ⟨failure, _, hreached, _⟩⟩ :=
        reached_known hopens haddresses
      · rw [hreached] at hresult
        cases hresult
      · rw [hreached] at hresult
        cases failure with
        | connect reason => cases hresult
        | tls reason => cases hresult

/-- What the end of a send says of the connection that is held. -/
structure Keeps (e : Exchange) : Prop where
  answered : e.answer = .settled .unconfirmed ∨ ∃ error, e.answer = .settled (.failed error)
  /-- A connection that took the frame is kept. -/
  written : e.answer = .settled .unconfirmed → ∃ connection, e.after.held = some connection
  /-- After any failure behind the encoding there is none. -/
  failed : ∀ error, e.answer = .settled (.failed error) →
    (∀ reason, error ≠ .encode reason) → e.after.held = none
  /-- A call that cannot be encoded leaves it alone. -/
  unencoded : ∀ reason, e.answer = .settled (.failed (.encode reason)) →
    e.after.held = e.before.held

theorem keeps {e : Exchange} (hfits : e.Fits) : e.Keeps := by
  have hanswered := answer_cases hfits
  cases hframe : e.frame? with
  | none =>
    obtain ⟨reason, hsent⟩ := sent_of_frame?_none hframe
    have hanswer : e.answer = .settled (.failed (.encode reason)) := by rw [answer, hsent]
    refine ⟨hanswered, ?_, ?_, ?_⟩
    · intro hwritten
      rw [hanswer] at hwritten
      cases hwritten
    · intro error hfailed hother
      rw [hanswer] at hfailed
      cases hfailed
      exact absurd rfl (hother reason)
    · intro _ _
      rw [after, hsent]
  | some frame =>
    have hsome : e.frame?.isSome = true := by rw [hframe]; rfl
    rcases cases hfits with hsilent | ⟨connection, conduct, written, hwrote⟩
    · obtain ⟨error, hresult, hanswer⟩ := unreached_of_nowhere hframe hsilent.nowhere
      refine ⟨hanswered, ?_, ?_, ?_⟩
      · intro hwritten
        rw [hanswer] at hwritten
        cases hwritten
      · intro _ _ _
        rcases hsilent.held with ⟨hnone, _⟩ | hnone
        · rw [hnone] at hframe
          cases hframe
        · exact hnone
      · intro reason hencode
        rw [hanswer] at hencode
        cases hencode
        exact absurd rfl (not_encode_of_unreached hsome hresult reason)
    · rcases hwrote.ended with ⟨hanswer, hheld, _⟩ | ⟨error, hanswer, hnone, _, _, hprogress⟩
      · refine ⟨hanswered, fun _ => ⟨connection, hheld⟩, ?_, ?_⟩
        · intro error hfailed
          rw [answer, hanswer] at hfailed
          cases hfailed
        · intro reason hencode
          rw [answer, hanswer] at hencode
          cases hencode
      · refine ⟨hanswered, ?_, fun _ _ _ => hnone, ?_⟩
        · intro hwritten
          rw [answer, hanswer] at hwritten
          cases hwritten
        · intro reason hencode
          rw [answer, hanswer] at hencode
          cases hencode
          cases hprogress

/-- What the send writes is this call: its frame if it was written, and else a front part of
it. A call without a form is not written. -/
inductive Carries (e : Exchange) (call : Call) : Prop
  | encoded {body : List UInt8}
    (encodes : e.before.format.encodeCall call = .ok body)
    (front : e.octets <+: Frame.post e.before.endpoint e.before.format.contentType body)
    (whole : e.answer = .settled .unconfirmed →
      e.octets = Frame.post e.before.endpoint e.before.format.contentType body)
  | unencoded {reason : CodecError}
    (fails : e.before.format.encodeCall call = .error reason)
    (answered : e.answer = .settled (.failed (.encode reason)))
    (nothing : e.octets = [])

theorem carries {e : Exchange} (hfits : e.Fits) : e.Carries e.call := by
  have hframe := e.frame?_eq
  cases hencodes : e.before.format.encodeCall e.call with
  | error reason =>
    have hsent : e.sent = ⟨⟨[], .settled (.failed (.encode reason)),
        { e.before with
          seqId := e.before.seqId + 1
          metrics := failedOnce e.before.metrics }⟩, none⟩ := by
      unfold call at hencodes
      unfold sent send
      simp only [hencodes]
    exact .unencoded hencodes (by rw [answer, hsent]) (by rw [octets, hsent]; rfl)
  | ok body =>
    rw [hencodes, Except.toOption, Option.map_some] at hframe
    rcases cases hfits with hsilent | ⟨connection, conduct, frame, hwrote⟩
    · have hnothing : e.octets = [] := by
        have hnowhere := hsilent.nowhere
        rw [connection?, Sent.connection?, Option.map_eq_none_iff] at hnowhere
        rw [octets, Sent.octets, hnowhere]
        rfl
      obtain ⟨error, hanswer, _⟩ := hsilent.answer
      refine .encoded hencodes (hnothing ▸ List.nil_prefix) fun hwritten => ?_
      rw [hanswer] at hwritten
      cases hwritten
    · rw [hwrote.framed, Option.some.injEq] at hframe
      have hended := hwrote.ended
      rw [hframe] at hended
      rcases hended with ⟨_, _, hall, _⟩ | ⟨error, hanswer, _, hfront, _, _⟩
      · exact .encoded hencodes (hall ▸ List.prefix_refl _) fun _ => hall
      · refine .encoded hencodes hfront fun hwritten => ?_
        rw [answer, hanswer] at hwritten
        cases hwritten

end Exchange

/-! ## A run -/

namespace Persistent

/-- The state after a run. -/
def after (t : Persistent) : List Use → Persistent
  | [] => t
  | .send auth report network :: uses =>
    (⟨t, auth, report, network⟩ : Exchange).after.after uses
  | .close :: uses => t.close.after uses

theorem metrics_run (t : Persistent) (uses : List Use) (hfits : ∀ e ∈ t.sends uses, e.Fits) :
    (t.after uses).metrics = t.metrics.counting (t.sends uses) := by
  induction uses generalizing t with
  | nil => rfl
  | cons use uses ih =>
    cases use with
    | close =>
      rw [sends_close] at hfits ⊢
      exact ih t.close hfits
    | send auth report network =>
      rw [sends_send] at hfits ⊢
      obtain ⟨hfirst, hrest⟩ := List.forall_mem_cons.mp hfits
      rw [DeliveryMetrics.counting_cons, ← Exchange.metrics_after hfirst]
      exact ih _ hrest

/-- The sends of a run have consecutive numbers. -/
theorem seqId_run {t : Persistent} {uses : List Use} {index : Nat} {e : Exchange}
    (hindex : (t.sends uses)[index]? = some e) :
    e.before.seqId = t.seqId + .ofNat index := by
  induction uses generalizing t index with
  | nil => cases hindex
  | cons use uses ih =>
    cases use with
    | close =>
      have hclosed := ih (hindex : (t.close.sends uses)[index]? = some e)
      exact hclosed
    | send auth report network =>
      rw [sends_send] at hindex
      cases index with
      | zero =>
        obtain rfl := Option.some.inj hindex
        simp
      | succ index =>
        rw [ih hindex, Exchange.seqId_after, UInt32.ofNat_add, UInt32.add_assoc,
          UInt32.add_comm 1]
        rfl

/-- What the counters and the connection of a transport say of its sends. -/
structure Booked (exchanges : List Exchange) (final : Persistent) : Prop where
  /-- Every send is counted, as written or as failed. -/
  reports : final.metrics.reportsWritten + final.metrics.reportsFailed = exchanges.length
  written : final.metrics.reportsWritten = exchanges.countP (·.answer = .settled .unconfirmed)
  bytes : final.metrics.bytesWritten =
    ((exchanges.filter (·.answer = .settled .unconfirmed)).map (·.frameLength)).sum
  opened : final.metrics.connectionsOpened = exchanges.countP (·.connects)
  /-- The calls are numbered from one on, in 32 bits, and each send carries its call. -/
  numbered : ∀ index e, exchanges[index]? = some e →
    e.call.seqId.toNat = (index + 1) % 0x100000000 ∧ e.Carries e.call
  keeps : ∀ e ∈ exchanges, e.Keeps

/-- The books of a new transport are right after any run. -/
theorem booked (endpoint : Endpoint) (format : BodyFormat) (connect : ConnectOptions)
    (debug : Bool) (uses : List Use) :
    let t : Persistent := { endpoint, format, connect, debug }
    (∀ e ∈ t.sends uses, e.Fits) → Booked (t.sends uses) (t.after uses) := by
  intro t hfits
  have hmetrics : (t.after uses).metrics = ({} : DeliveryMetrics).counting (t.sends uses) :=
    metrics_run t uses hfits
  constructor
  case reports =>
    rw [hmetrics, List.length_eq_countP_add_countP Exchange.isWritten]
    simp [DeliveryMetrics.counting]
  case written =>
    rw [hmetrics]
    exact Nat.zero_add _
  case bytes =>
    rw [hmetrics]
    exact Nat.zero_add _
  case opened =>
    rw [hmetrics]
    exact Nat.zero_add _
  case numbered =>
    intro index e hindex
    have hseqId : e.call.seqId = .ofNat (index + 1) := by
      rw [Exchange.call, seqId_run hindex, UInt32.ofNat_add]
      exact congrArg (· + 1) (UInt32.zero_add _)
    refine ⟨?_, Exchange.carries (hfits e (List.mem_of_getElem? hindex))⟩
    rw [hseqId]
    exact UInt32.toNat_ofNat'
  case keeps => exact fun e hmember => Exchange.keeps (hfits e hmember)

/-- The third call has no form. -/
def Ledger.transport : Persistent where
  endpoint := ⟨.plain, "", 80, "/"⟩
  format := ⟨"", fun call => if call.seqId = 3 then .error (.encode "no form") else .ok [1, 2, 3],
    fun _ => .error (.decode "")⟩
  connect := {}

def Ledger.send (lookup : Except String (List String)) (held : Conduct)
    (attempt : Except Unreachable Conduct) : Use :=
  .send ⟨""⟩ ⟨⟨"", 0, ""⟩, 1, 2, [], [], []⟩ ⟨lookup, fun _ => attempt, held⟩

/-- Every way in which a send may end. -/
def Ledger.uses : List Use :=
  [Ledger.send (.error "no such host") {} (.ok {}),
    Ledger.send (.ok [""]) {} (.ok {}),
    Ledger.send (.ok [""]) {} (.ok {}),
    Ledger.send (.ok [""]) { reads := [.took 0] } (.error (.connect "refused")),
    Ledger.send (.ok [""]) {} (.ok { writes := [.took 7, .failed "reset"] }),
    Ledger.send (.ok [""]) {} (.ok { flushError := some "reset" }),
    Ledger.send (.ok [""]) {} (.ok {}),
    .close]

theorem booked_ledger :
    let t := Ledger.transport
    let exchanges := t.sends Ledger.uses
    (∀ e ∈ exchanges, e.Fits) ∧
    exchanges.map (fun e => (e.call.seqId, e.after.held, e.answer)) =
      [(1, none, .settled (.failed (.resolve ": no such host"))),
        (2, some 0, .settled .unconfirmed),
        (3, some 0, .settled (.failed (.encode (.encode "no form")))),
        (4, none, .settled (.failed (.connect "refused"))),
        (5, none, .settled (.failed (.write 7 110 "reset"))),
        (6, none, .settled (.failed (.write 110 110 "reset"))),
        (7, some 3, .settled .unconfirmed)] ∧
    (t.after Ledger.uses).metrics = ⟨2, 5, 4, 220⟩ ∧
    Booked exchanges (t.after Ledger.uses) := by
  have hfits : ∀ e ∈ Ledger.transport.sends Ledger.uses, e.Fits := by
    intro e hmember frame hframe
    have hsetup := setup_run Ledger.uses e hmember
    have hlength : (Frame.post ⟨.plain, "", 80, "/"⟩ "" [1, 2, 3]).length = 110 := by
      decide +kernel
    rw [e.frame?_eq, hsetup.format, hsetup.endpoint, Ledger.transport] at hframe
    dsimp only at hframe
    split at hframe
    · cases hframe
    · rw [Except.toOption, Option.map_some, Option.mem_some_iff] at hframe
      rw [← hframe, hsetup.connect, hlength]
      decide
  refine ⟨hfits, by decide +kernel, by decide +kernel, ?_⟩
  exact booked Ledger.transport.endpoint Ledger.transport.format Ledger.transport.connect
    Ledger.transport.debug Ledger.uses hfits

end Persistent

end Telemetry
