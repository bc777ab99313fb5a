import Telemetry.Proofs.Except
import Telemetry.Proofs.Flush

/-!
How a recorder starts and how it comes to its identity. What is made from valid
options holds nothing, counts nothing and opens its first window at once. An
identity is derived at most once, with the start of the recorder, and is then the
only one that is accepted.
-/

namespace Telemetry

theorem Identity.ofProcess_ok {processId : UInt32} {groupName accessToken : String}
    {startMicros : Int} {identity : Identity}
    (hderived : ofProcess processId groupName accessToken startMicros = .ok identity) :
    validate groupName accessToken = .ok () ∧
      identity = ⟨accessToken, groupName, deriveGuid processId accessToken groupName,
        startMicros⟩ := by
  unfold ofProcess at hderived
  obtain ⟨_, hvalid, hderived⟩ := ok_of_bind_ok hderived
  cases hderived
  exact ⟨hvalid, rfl⟩

namespace Recorder

variable {σ : Type}

/-- A recorder as it is made. -/
structure Fresh (r : Recorder σ) (options : Options) (now : Int) : Prop where
  enabled : r.enabled = true
  logs : r.logs = .empty options.maxLogRecords
  spans : r.spans = .empty options.maxSpanRecords
  counters : r.counters = {}
  guarantee : r.guarantee = options.delivery
  startMicros : r.startMicros = now
  reportStartMicros : r.reportStartMicros = now
  identity : ∀ identity, r.identity = some identity → identity.startMicros = now

theorem create_fresh (T : Transport σ) (carrier : σ) (options : Options) (processId : UInt32)
    (draws : List UInt64) (now : Int) (turn : Turn σ)
    (hcreate : create T carrier options processId draws now = .ok turn) :
    turn.next.Fresh options now := by
  unfold create at hcreate
  obtain ⟨_, _, hcreate⟩ := ok_of_bind_ok hcreate
  cases hnames : options.identity? with
  | none =>
    rw [hnames] at hcreate
    cases hcreate
    exact ⟨rfl, rfl, rfl, rfl, rfl, rfl, rfl, fun identity hidentity => by cases hidentity⟩
  | some names =>
    rw [hnames] at hcreate
    obtain ⟨derived, hderived, hcreate⟩ := ok_of_bind_ok hcreate
    cases hcreate
    refine ⟨rfl, rfl, rfl, rfl, rfl, rfl, rfl, ?_⟩
    intro identity hidentity
    cases hidentity
    rw [(Identity.ofProcess_ok hderived).2]

/-- All that a new recorder is, but who it reports for. -/
theorem create_next (T : Transport σ) (carrier : σ) (options : Options) (processId : UInt32)
    (draws : List UInt64) (now : Int) (turn : Turn σ)
    (hcreate : create T carrier options processId draws now = .ok turn) :
    turn.next = {
      identity := turn.next.identity
      startMicros := now
      logs := .empty options.maxLogRecords
      spans := .empty options.maxSpanRecords
      reportStartMicros := now
      nextFlushMicros := laterBy now options.reportingPeriod.micros
      periodMicros := options.reportingPeriod.micros
      carrier
      draws
      processId
      maxPayloadDepth := options.maxPayloadDepth
      guarantee := options.delivery
      debug := options.debug } := by
  unfold create at hcreate
  obtain ⟨_, _, hcreate⟩ := ok_of_bind_ok hcreate
  cases hnames : options.identity? with
  | none =>
    rw [hnames] at hcreate
    cases hcreate
    rfl
  | some names =>
    rw [hnames] at hcreate
    obtain ⟨_, _, hcreate⟩ := ok_of_bind_ok hcreate
    cases hcreate
    rfl

/-- An identity that is accepted is the one that is known already, or the recorder
had none and keeps this one from now on. -/
theorem setIdentity_cases (r : Recorder σ) (groupName accessToken : String) (turn : Turn σ)
    (hset : r.setIdentity groupName accessToken = .ok turn) :
    turn.trace.deliveries = [] ∧
      ((∃ identity, r.identity = some identity ∧ turn.next = r) ∨
      (r.identity = none ∧ ∃ identity,
        Identity.ofProcess r.processId groupName accessToken r.startMicros = .ok identity ∧
        turn.next = { r with identity := some identity })) := by
  unfold setIdentity at hset
  obtain ⟨_, _, hset⟩ := ok_of_bind_ok hset
  cases hidentity : r.identity with
  | some identity =>
    rw [hidentity] at hset
    obtain ⟨_, _, hset⟩ := ok_of_bind_ok hset
    cases hset
    exact ⟨rfl, Or.inl ⟨identity, rfl, rfl⟩⟩
  | none =>
    rw [hidentity] at hset
    obtain ⟨identity, hderived, hset⟩ := ok_of_bind_ok hset
    cases hset
    refine ⟨?_, Or.inr ⟨rfl, identity, hderived, rfl⟩⟩
    by_cases hdebug : r.debug
    · simp [hdebug]
    · simp [hdebug]

end Recorder

end Telemetry
