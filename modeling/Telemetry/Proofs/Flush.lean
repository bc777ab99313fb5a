import Telemetry.Proofs.RecordKind

/-!
What a flush does to a recorder. It finds nothing to do, and then at most the
time of the next one moves, or it makes one delivery, and then the answer alone
decides what is left. The state after a delivery is written down as one
expression, so that no later proof has to look at the ways to it.
-/

namespace Telemetry

namespace Trace

@[simp] theorem deliveries_nil : Trace.deliveries [] = [] := rfl

@[simp] theorem deliveries_append (a b : Trace) :
    (a ++ b).deliveries = a.deliveries ++ b.deliveries := by
  unfold deliveries
  exact List.filterMap_append

@[simp] theorem deliveries_remark (diagnostic : Diagnostic) (rest : Trace) :
    Trace.deliveries (.remark diagnostic :: rest) = rest.deliveries := rfl

@[simp] theorem deliveries_sent (delivery : Delivery) (rest : Trace) :
    Trace.deliveries (.sent delivery :: rest) = delivery :: rest.deliveries := rfl

@[simp] theorem deliveries_map_remark {α : Type} (f : α → Diagnostic) (items : List α) :
    Trace.deliveries (items.map fun item => .remark (f item)) = [] := by
  induction items with
  | nil => rfl
  | cons item rest ih => exact ih

@[simp] theorem deliveries_remarks (remarks : List Diagnostic) :
    Trace.deliveries (remarks.map .remark) = [] :=
  deliveries_map_remark id remarks

/-- The deliveries whose reports are settled. -/
def settled (guarantee : DeliveryGuarantee) (trace : Trace) : List Delivery :=
  trace.deliveries.filter (·.isSettled guarantee)

@[simp] theorem settled_append (guarantee : DeliveryGuarantee) (a b : Trace) :
    settled guarantee (a ++ b) = settled guarantee a ++ settled guarantee b := by
  simp [settled]

end Trace

namespace Delivery

/-- The collector's answer tells the recorder to stop. -/
def requestsDisable (delivery : Delivery) : Bool :=
  match delivery.answer with
  | .settled (.delivered response) => response.requestsDisable
  | _ => false

/-- The answer was that the report did not arrive. -/
def Failed (delivery : Delivery) : Prop :=
  ∃ error, delivery.answer = .settled (.failed error)

/-- There is one way for a report to come back. -/
theorem isSettled_eq_false_iff (guarantee : DeliveryGuarantee) (delivery : Delivery) :
    delivery.isSettled guarantee = false ↔
      delivery.Failed ∧ guarantee = .retainUntilAcknowledged := by
  unfold isSettled Failed
  cases delivery.answer with
  | panicked => simp
  | settled outcome =>
    cases outcome with
    | unconfirmed => simp
    | delivered response => simp
    | failed error =>
      cases guarantee with
      | clearOnSend => simp
      | retainUntilAcknowledged => simp

/-- Where the window of the next report starts: at the end of this one, unless
the records went back or the transport panicked. -/
def nextOldest (guarantee : DeliveryGuarantee) (delivery : Delivery) : Int :=
  match delivery.answer, guarantee with
  | .panicked, _ => delivery.report.oldestMicros
  | .settled (.failed _), .retainUntilAcknowledged => delivery.report.oldestMicros
  | _, _ => delivery.report.youngestMicros

end Delivery

namespace Recorder

variable {σ : Type}

/-- Something is held and it is known who reports it. -/
structure Ready (r : Recorder σ) (identity : Identity) : Prop where
  enabled : r.enabled = true
  identified : r.identity = some identity
  holds : ¬ (r.logs.items = [] ∧ r.spans.items = [])

/-- The next flush is due a period after this reading. -/
def postponed (r : Recorder σ) (now : Int) : Recorder σ :=
  { r with nextFlushMicros := laterBy now r.periodMicros }

/-- The delivery that a flush makes of everything that is held. -/
def delivery (T : Transport σ) (r : Recorder σ) (identity : Identity) (now : Int) : Delivery :=
  let auth := ⟨identity.accessToken⟩
  let report := r.batch identity now
  ⟨auth, report, (T.send r.carrier auth report).answer⟩

/-- The recorder after a delivery. Records that were not settled are back in
their places, stamped, and nothing else has changed. -/
def after (r : Recorder σ) (delivery : Delivery) (carrier : σ) : Recorder σ :=
  if delivery.isSettled r.guarantee then
    { r with
      enabled := r.enabled && !delivery.requestsDisable
      logs := r.logs.clear
      spans := r.spans.clear
      counters := {}
      reportStartMicros := delivery.nextOldest r.guarantee
      carrier }
  else
    { r with
      logs := r.logs.map (stampLog r.guid)
      spans := r.spans.map (stampSpan r.guid)
      carrier }

theorem guid_of_identity {r : Recorder σ} {identity : Identity}
    (hidentity : r.identity = some identity) : r.guid = identity.guid := by
  unfold guid
  rw [hidentity]

/-- A batch fits into the buffers that it was taken out of, so putting it back
restores every record and gives up none. -/
theorem retain_batch (r : Recorder σ) (identity : Identity) (now : Int) (carrier : σ) :
    retain { r.emptied with carrier } (r.batch identity now) r.counters =
      { r with
        logs := r.logs.map (stampLog identity.guid)
        spans := r.spans.map (stampSpan identity.guid)
        carrier } := by
  have hlogs := Buffer.restore_clear r.logs (r.logs.items.map (stampLog identity.guid))
    (by simpa using r.logs.length_le)
  have hspans := Buffer.restore_clear r.spans (r.spans.items.map (stampSpan identity.guid))
    (by simpa using r.spans.length_le)
  have hcounters : (DropCounters.add {} r.counters).add ⟨(0 : Nat), (0 : Nat)⟩ = r.counters := by
    simp [DropCounters.add]
  simp only [retain, emptied, batch, hlogs, hspans, hcounters]
  rfl

theorem settle_retained (T : Transport σ) (r : Recorder σ) (report : Report)
    (counters : DropCounters) (error : TransportError)
    (hretain : r.guarantee = .retainUntilAcknowledged) :
    (settle T r report counters (.failed error)).next = r.retain report counters := by
  unfold settle
  rw [hretain]

/-- What is done with an answer is remarked on but sends nothing more. -/
theorem settle_deliveries (T : Transport σ) (r : Recorder σ) (report : Report)
    (counters : DropCounters) (outcome : Outcome) :
    (settle T r report counters outcome).trace.deliveries = [] := by
  cases outcome with
  | unconfirmed => rfl
  | delivered response =>
    simp only [settle, heed]
    split
    · simp
    · simp
  | failed error =>
    simp only [settle]
    split
    · rfl
    · rfl

/-- A delivery with the part of its trace that does not depend on the answer in
front. -/
private theorem deliver_eq (T : Transport σ) (r : Recorder σ) (identity : Identity) (now : Int) :
    ∃ (carrier : σ) (opening : Trace), opening.deliveries = [r.delivery T identity now] ∧
      deliver T r identity now =
        match (r.delivery T identity now).answer with
        | .panicked => ⟨{ r.emptied with carrier }, opening⟩
        | .settled outcome =>
          let settled :=
            settle T { r.emptied with carrier } (r.batch identity now) r.counters outcome
          ⟨settled.next, opening ++ settled.trace⟩ := by
  let report := r.batch identity now
  let sending := T.send r.carrier ⟨identity.accessToken⟩ report
  let announced : Trace := if r.debug then
    [.remark (.flushing report.logRecords.length report.spanRecords.length
      report.oldestMicros report.youngestMicros)] else []
  have hannounced : announced.deliveries = [] := by
    by_cases hdebug : r.debug
    · simp [announced, hdebug]
    · simp [announced, hdebug]
  refine ⟨sending.next, announced ++ .sent (r.delivery T identity now) ::
    sending.remarks.map .remark, ?_, rfl⟩
  simp [hannounced]

theorem deliver_deliveries (T : Transport σ) (r : Recorder σ) (identity : Identity) (now : Int) :
    (deliver T r identity now).trace.deliveries = [r.delivery T identity now] := by
  obtain ⟨carrier, opening, hopening, hdeliver⟩ := deliver_eq T r identity now
  rw [hdeliver]
  cases (r.delivery T identity now).answer with
  | panicked => exact hopening
  | settled outcome => simp [hopening, settle_deliveries]

/-- After a delivery only the answer counts, and of the transport only the state
that it is left in. -/
theorem deliver_next (T : Transport σ) (r : Recorder σ) (identity : Identity) (now : Int)
    (hidentity : r.identity = some identity) :
    ∃ carrier, (deliver T r identity now).next = r.after (r.delivery T identity now) carrier := by
  obtain ⟨carrier, opening, _, hdeliver⟩ := deliver_eq T r identity now
  refine ⟨carrier, ?_⟩
  rw [hdeliver]
  have hreport : (r.delivery T identity now).report = r.batch identity now := rfl
  unfold after Delivery.isSettled Delivery.requestsDisable Delivery.nextOldest
  cases hanswer : (r.delivery T identity now).answer with
  | panicked => simp [emptied, hreport, batch]
  | settled outcome =>
    cases outcome with
    | unconfirmed => simp [settle, advance, emptied, hreport]
    | delivered response =>
      by_cases hdisable : response.requestsDisable
      · simp [settle, heed, hdisable, advance, emptied, disable, hreport]
      · simp [settle, heed, hdisable, advance, emptied, hreport]
    | failed error =>
      cases hguarantee : r.guarantee with
      | clearOnSend => simp [settle, emptied, hguarantee, advance, hreport]
      | retainUntilAcknowledged =>
        have hguid := guid_of_identity hidentity
        have hretained := settle_retained T { r.emptied with carrier } (r.batch identity now)
          r.counters error hguarantee
        dsimp only
        rw [hretained, retain_batch r identity now carrier, hguid]
        simp [hguarantee]

private theorem flush_eq (T : Transport σ) (r : Recorder σ) (now : Int) :
    flush T r now =
      if r.enabled then
        match r.identity with
        | none => ⟨r.postponed now, []⟩
        | some identity =>
          if r.logs.isEmpty && r.spans.isEmpty then ⟨r.postponed now, []⟩
          else deliver T (r.postponed now) identity now
      else ⟨r, []⟩ := rfl

theorem flush_idle (T : Transport σ) (r : Recorder σ) (now : Int)
    (hidle : ∀ identity, ¬ r.Ready identity) :
    flush T r now = ⟨if r.enabled then r.postponed now else r, []⟩ := by
  rw [flush_eq]
  by_cases henabled : r.enabled = true
  · simp only [henabled, if_true]
    cases hidentity : r.identity with
    | none => rfl
    | some identity =>
      have hempty : r.logs.items = [] ∧ r.spans.items = [] :=
        Classical.byContradiction fun hholds => hidle identity ⟨henabled, hidentity, hholds⟩
      have hlogs := (Buffer.isEmpty_iff r.logs).mpr hempty.1
      have hspans := (Buffer.isEmpty_iff r.spans).mpr hempty.2
      simp [hlogs, hspans]
  · simp [henabled]

theorem flush_eq_deliver (T : Transport σ) (r : Recorder σ) (identity : Identity) (now : Int)
    (hready : r.Ready identity) :
    flush T r now = deliver T (r.postponed now) identity now := by
  have hheld : ¬ (r.logs.isEmpty && r.spans.isEmpty) = true := by
    rw [Bool.and_eq_true, Buffer.isEmpty_iff, Buffer.isEmpty_iff]
    exact hready.holds
  rw [flush_eq, hready.identified]
  simp [hready.enabled, hheld]

/-- Everything that a flush can come to. The delivery is the one that the recorder
makes of what it holds, whatever time is set for the next flush. -/
theorem flush_cases (T : Transport σ) (r : Recorder σ) (now : Int) :
    ((∀ identity, ¬ r.Ready identity) ∧
      flush T r now = ⟨if r.enabled then r.postponed now else r, []⟩) ∨
    ∃ identity carrier, r.Ready identity ∧
      (flush T r now).trace.deliveries = [r.delivery T identity now] ∧
      (flush T r now).next = (r.postponed now).after (r.delivery T identity now) carrier := by
  by_cases hready : ∃ identity, r.Ready identity
  · obtain ⟨identity, hready⟩ := hready
    have hflush := flush_eq_deliver T r identity now hready
    obtain ⟨carrier, hnext⟩ := deliver_next T (r.postponed now) identity now hready.identified
    refine Or.inr ⟨identity, carrier, hready, ?_, ?_⟩
    · rw [hflush]
      exact deliver_deliveries T (r.postponed now) identity now
    · rw [hflush]
      exact hnext
  · have hidle : ∀ identity, ¬ r.Ready identity := not_exists.mp hready
    exact Or.inl ⟨hidle, flush_idle T r now hidle⟩

end Recorder

end Telemetry
