import Telemetry.Proofs.Run

/-!
What an action does to the records of one kind and to their counter. It pushes a
record or not; then it leaves them alone, or hands all of them over for good with
the counter, or gets all of them back in their order. The laws of accounts and of
order need nothing else about a recorder.
-/

namespace Telemetry

namespace Recorder

variable {σ : Type}

/-- The ways in which an action changes a recorder before it flushes. -/
inductive Action.Taking (action : Action) (r : Recorder σ) : Recorder σ → Prop
  | nothing (hnone : ∀ kind, action.record? r kind = none) : Taking action r r
  | log (record : LogRecord) (hlog : action.record? r .log = some record)
      (hspan : action.record? r .span = none) : Taking action r (r.addLog record)
  | span (record : SpanRecord) (hlog : action.record? r .log = none)
      (hspan : action.record? r .span = some record) : Taking action r (r.addSpan record)
  | identity (groupName accessToken : String) (identity : Identity)
      (hnone : ∀ kind, action.record? r kind = none) (hunknown : r.identity = none)
      (hderived : Identity.ofProcess r.processId groupName accessToken r.startMicros =
        .ok identity) : Taking action r { r with identity := some identity }
  | flag (hnone : ∀ kind, action.record? r kind = none) :
      Taking action r { r with shutDown := true }
  | off (hdisable : action = .disable) (hnone : ∀ kind, action.record? r kind = none) :
      Taking action r r.disable

theorem Action.taking (action : Action) (r : Recorder σ) : action.Taking r (action.taken r) := by
  cases action with
  | log clock entry =>
    simp only [taken]
    cases hrecord : (log clock entry).record? r .log with
    | none =>
      apply Taking.nothing
      intro kind
      cases kind with
      | log => exact hrecord
      | span => rfl
    | some record => exact Taking.log record hrecord rfl
  | finishSpan clock data =>
    simp only [taken]
    cases hrecord : (finishSpan clock data).record? r .span with
    | none =>
      apply Taking.nothing
      intro kind
      cases kind with
      | log => rfl
      | span => exact hrecord
    | some record => exact Taking.span record rfl hrecord
  | setIdentity groupName accessToken =>
    simp only [taken]
    cases hset : r.setIdentity groupName accessToken with
    | error refusal => exact Taking.nothing fun _ => rfl
    | ok turn =>
      rcases (setIdentity_cases r groupName accessToken turn hset).2 with
        ⟨_, _, hnext⟩ | ⟨hunknown, identity, hderived, hnext⟩
      · simp only [hnext]
        exact Taking.nothing fun _ => rfl
      · simp only [hnext]
        exact Taking.identity groupName accessToken identity (fun _ => rfl) hunknown hderived
  | flush now => exact Taking.nothing fun _ => rfl
  | shutdown now => exact Taking.flag fun _ => rfl
  | disable => exact Taking.off rfl fun _ => rfl

theorem Action.enabled_taken (action : Action) (r : Recorder σ) :
    (action.taken r).enabled = false ↔ r.enabled = false ∨ action = .disable := by
  by_cases hdisable : action = .disable
  · subst hdisable
    exact ⟨fun _ => Or.inr rfl, fun _ => rfl⟩
  · have htaking := action.taking r
    generalize action.taken r = recorded at htaking ⊢
    cases htaking with
    | off hoff _ => exact absurd hoff hdisable
    | nothing _ => simp [hdisable]
    | log record _ _ => simp [hdisable, addLog]
    | span record _ _ => simp [hdisable, addSpan]
    | identity _ _ identity _ _ _ => simp [hdisable]
    | flag _ => simp [hdisable]

/-- What is fixed when a recorder is made. -/
structure Settings where
  startMicros : Int
  periodMicros : Int
  processId : UInt32
  maxPayloadDepth : Nat
  guarantee : DeliveryGuarantee
  debug : Bool
  maxLogRecords : Nat
  maxSpanRecords : Nat

def settings (r : Recorder σ) : Settings where
  startMicros := r.startMicros
  periodMicros := r.periodMicros
  processId := r.processId
  maxPayloadDepth := r.maxPayloadDepth
  guarantee := r.guarantee
  debug := r.debug
  maxLogRecords := r.logs.max
  maxSpanRecords := r.spans.max

theorem settings_after (r : Recorder σ) (delivery : Delivery) (carrier : σ) :
    (r.after delivery carrier).settings = r.settings := by
  unfold after
  split
  · rfl
  · rfl

theorem identity_after (r : Recorder σ) (delivery : Delivery) (carrier : σ) :
    (r.after delivery carrier).identity = r.identity := by
  unfold after
  split
  · rfl
  · rfl

theorem Action.settings_taken (action : Action) (r : Recorder σ) :
    (action.taken r).settings = r.settings := by
  have htaking := action.taking r
  generalize action.taken r = recorded at htaking ⊢
  cases htaking with
  | nothing _ => rfl
  | log record _ _ => simp [addLog, settings]
  | span record _ _ => simp [addSpan, settings]
  | identity _ _ identity _ _ _ => rfl
  | flag _ => rfl
  | off _ _ => rfl

theorem Action.settings_apply (action : Action) (T : Transport σ) (r : Recorder σ) :
    (action.apply T r).next.settings = r.settings := by
  rcases action.apply_outcome T r with
    ⟨_, due, carrier, hnext⟩ | ⟨identity, now, carrier, _, _, hnext⟩
  · rw [hnext]
    exact action.settings_taken r
  · rw [hnext, settings_after]
    exact action.settings_taken r

theorem Action.guarantee_taken (action : Action) (r : Recorder σ) :
    (action.taken r).guarantee = r.guarantee :=
  congrArg Settings.guarantee (action.settings_taken r)

theorem Action.guarantee_apply (action : Action) (T : Transport σ) (r : Recorder σ) :
    (action.apply T r).next.guarantee = r.guarantee :=
  congrArg Settings.guarantee (action.settings_apply T r)

theorem Action.startMicros_apply (action : Action) (T : Transport σ) (r : Recorder σ) :
    (action.apply T r).next.startMicros = r.startMicros :=
  congrArg Settings.startMicros (action.settings_apply T r)

theorem settings_run (T : Transport σ) (r : Recorder σ) (actions : List Action) :
    (run T r actions).next.settings = r.settings := by
  induction actions generalizing r with
  | nil => rfl
  | cons action rest ih => exact (ih (action.apply T r).next).trans (action.settings_apply T r)

theorem Action.identity_apply (action : Action) (T : Transport σ) (r : Recorder σ) :
    (action.apply T r).next.identity = (action.taken r).identity := by
  rcases action.apply_outcome T r with
    ⟨_, due, carrier, hnext⟩ | ⟨identity, now, carrier, _, _, hnext⟩
  · rw [hnext]
  · rw [hnext, identity_after]
    rfl

/-- An action leaves the identity alone, or gives one to a recorder that has none. -/
theorem Action.identity_cases (action : Action) (T : Transport σ) (r : Recorder σ) :
    (action.apply T r).next.identity = r.identity ∨
    (r.identity = none ∧ ∃ groupName accessToken identity,
      Identity.ofProcess r.processId groupName accessToken r.startMicros = .ok identity ∧
      (action.apply T r).next.identity = some identity) := by
  rw [action.identity_apply T r]
  have htaking := action.taking r
  generalize action.taken r = recorded at htaking ⊢
  cases htaking with
  | nothing _ => exact Or.inl rfl
  | log record _ _ => exact Or.inl rfl
  | span record _ _ => exact Or.inl rfl
  | identity groupName accessToken identity _ hunknown hderived =>
    exact Or.inr ⟨hunknown, groupName, accessToken, identity, hderived, rfl⟩
  | flag _ => exact Or.inl rfl
  | off _ _ => exact Or.inl rfl

/-- An identity that is known once is known for good. -/
theorem identity_run (T : Transport σ) (r : Recorder σ) (actions : List Action)
    (identity : Identity) (hidentity : r.identity = some identity) :
    (run T r actions).next.identity = some identity := by
  induction actions generalizing r with
  | nil => exact hidentity
  | cons action rest ih =>
    apply ih (action.apply T r).next
    rcases action.identity_cases T r with hsame | ⟨hunknown, _⟩
    · rw [hsame]
      exact hidentity
    · rw [hidentity] at hunknown
      cases hunknown

end Recorder

namespace RecordKind

variable {σ : Type}

open Recorder

theorem held_of_fresh (kind : RecordKind) {r : Recorder σ} {options : Options} {now : Int}
    (hfresh : r.Fresh options now) : (kind.held r).items = [] ∧ kind.counter r = 0 := by
  cases kind with
  | log => exact ⟨congrArg Buffer.items hfresh.logs, congrArg DropCounters.logs hfresh.counters⟩
  | span => exact ⟨congrArg Buffer.items hfresh.spans, congrArg DropCounters.spans hfresh.counters⟩

private theorem toInt_dropped (dropped : Bool) :
    (if dropped then 1 else 0 : Int) = (dropped.toNat : Int) := by
  cases dropped with
  | true => rfl
  | false => rfl

/-- An action other than a disable pushes a record of the kind, or leaves these
records and their counter as they are. -/
theorem taken_cases (kind : RecordKind) (action : Action) (r : Recorder σ)
    (hdisable : action ≠ .disable) :
    (action.record? r kind = none ∧ kind.held (action.taken r) = kind.held r ∧
      kind.counter (action.taken r) = kind.counter r) ∨
    ∃ record, action.record? r kind = some record ∧
      kind.held (action.taken r) = ((kind.held r).push record r.draws).1 ∧
      kind.counter (action.taken r) = kind.counter r + (action.drops r kind).toNat := by
  have htaking := action.taking r
  generalize action.taken r = recorded at htaking ⊢
  cases htaking with
  | nothing hnone => exact Or.inl ⟨hnone kind, rfl, rfl⟩
  | log record hlog hspan =>
    cases kind with
    | log =>
      refine Or.inr ⟨record, hlog, rfl, ?_⟩
      simp only [Action.drops, hlog]
      exact congrArg (r.counters.logs + ·) (toInt_dropped _)
    | span => exact Or.inl ⟨hspan, rfl, rfl⟩
  | span record hlog hspan =>
    cases kind with
    | log => exact Or.inl ⟨hlog, rfl, rfl⟩
    | span =>
      refine Or.inr ⟨record, hspan, rfl, ?_⟩
      simp only [Action.drops, hspan]
      exact congrArg (r.counters.spans + ·) (toInt_dropped _)
  | identity _ _ identity hnone _ _ => exact Or.inl ⟨hnone kind, rfl, rfl⟩
  | flag hnone => exact Or.inl ⟨hnone kind, rfl, rfl⟩
  | off hoff _ => exact absurd hoff hdisable

theorem held_after_settled (kind : RecordKind) (r : Recorder σ) (delivery : Delivery)
    (carrier : σ) (hsettled : delivery.isSettled r.guarantee = true) :
    (kind.held (r.after delivery carrier)).items = [] ∧
      kind.counter (r.after delivery carrier) = 0 := by
  unfold after
  rw [if_pos hsettled]
  cases kind with
  | log => exact ⟨rfl, rfl⟩
  | span => exact ⟨rfl, rfl⟩

theorem held_after_returned (kind : RecordKind) (r : Recorder σ) (delivery : Delivery)
    (carrier : σ) (hreturned : delivery.isSettled r.guarantee = false) :
    kind.held (r.after delivery carrier) = (kind.held r).map (kind.stamp r.guid) ∧
      kind.counter (r.after delivery carrier) = kind.counter r := by
  unfold after
  rw [if_neg (by simp [hreturned])]
  cases kind with
  | log => exact ⟨rfl, rfl⟩
  | span => exact ⟨rfl, rfl⟩

/-- What becomes of the records of a kind once an action has taken something in:
they are left alone, or one delivery carries them, stamped with the identity, and
then they are settled and gone or they are all still held. -/
theorem apply_cases (kind : RecordKind) (action : Action) (T : Transport σ) (r : Recorder σ) :
    ((action.apply T r).trace.deliveries = [] ∧
      kind.held (action.apply T r).next = kind.held (action.taken r) ∧
      kind.counter (action.apply T r).next = kind.counter (action.taken r)) ∨
    ∃ identity delivery, (action.apply T r).next.identity = some identity ∧
      (action.apply T r).trace.deliveries = [delivery] ∧
      ((delivery.isSettled r.guarantee = true ∧
        kind.carried delivery.report =
          (kind.held (action.taken r)).items.map (kind.stamp identity.guid) ∧
        delivery.report.counted kind.counterName = kind.counter (action.taken r) ∧
        (kind.held (action.apply T r).next).items = [] ∧
        kind.counter (action.apply T r).next = 0) ∨
      (delivery.isSettled r.guarantee = false ∧
        kind.held (action.apply T r).next =
          (kind.held (action.taken r)).map (kind.stamp identity.guid) ∧
        kind.counter (action.apply T r).next = kind.counter (action.taken r))) := by
  rcases action.apply_outcome T r with
    ⟨hsilent, due, carrier, hnext⟩ | ⟨identity, now, carrier, hready, hsent, hnext⟩
  · left
    rw [hnext]
    cases kind with
    | log => exact ⟨hsilent, rfl, rfl⟩
    | span => exact ⟨hsilent, rfl, rfl⟩
  · let delivery := (action.taken r).delivery T identity now
    let due := (action.taken r).postponed now
    have hheld : kind.held due = kind.held (action.taken r) ∧
        kind.counter due = kind.counter (action.taken r) := by
      cases kind with
      | log => exact ⟨rfl, rfl⟩
      | span => exact ⟨rfl, rfl⟩
    have hguid : due.guid = identity.guid := guid_of_identity hready.identified
    have hsame : delivery.isSettled due.guarantee = delivery.isSettled r.guarantee :=
      congrArg delivery.isSettled (action.guarantee_taken r)
    refine Or.inr ⟨identity, delivery, ?_, hsent, ?_⟩
    · rw [action.identity_apply T r]
      exact hready.identified
    · rw [hnext]
      cases hsettled : delivery.isSettled r.guarantee with
      | true =>
        exact Or.inl ⟨rfl, kind.carried_batch (action.taken r) identity now,
          kind.counted_batch (action.taken r) identity now,
          kind.held_after_settled due delivery carrier (hsame.trans hsettled)⟩
      | false =>
        have hafter := kind.held_after_returned due delivery carrier (hsame.trans hsettled)
        rw [hheld.1, hheld.2, hguid] at hafter
        exact Or.inr ⟨rfl, hafter⟩

end RecordKind

end Telemetry
