import Mathlib.Data.List.Forall2
import Telemetry.Proofs.Run

/-!
A flush that fails while records are kept until they are acknowledged. The recorder
is emptied before the answer is known, so that nothing has happened in the end is a
fact about putting things back: a batch is never longer than the buffer that it
came out of, and the counters are added to zero.
-/

namespace Telemetry

namespace RecordKind

variable {σ : Type}

theorem completed_map (kind : RecordKind) (guid : String) (records : List kind.Record) :
    List.Forall₂ (kind.Completed guid) records (records.map (kind.stamp guid)) :=
  List.forall₂_map_right_iff.mpr
    (List.forall₂_same.mpr fun record _ => kind.completed_stamp guid record)

/-- Putting back what was just taken gives up none of it. -/
theorem restore_batch (kind : RecordKind) (r : Recorder σ) (identity : Identity) (now : Int) :
    ((kind.held r).clear.restore (kind.carried (r.batch identity now))).2 = 0 := by
  rw [kind.carried_batch r identity now]
  have hfits : ((kind.held r).items.map (kind.stamp identity.guid)).length ≤
      (kind.held r).max := by
    rw [List.length_map]
    exact (kind.held r).length_le
  rw [Buffer.restore_clear (kind.held r) _ hfits]

end RecordKind

namespace Recorder

variable {σ : Type}

/-- A flush whose report comes back has changed nothing but the time of the next
flush and the state of the transport. The records stand in their old places, with
the guid where they had none, and the counters count what they counted before. -/
theorem flush_failed (T : Transport σ) (r : Recorder σ) (now : Int)
    (hretain : r.guarantee = .retainUntilAcknowledged) (delivery : Delivery)
    (hsent : delivery ∈ (flush T r now).trace.deliveries) (hfailed : delivery.Failed) :
    let next := (flush T r now).next
    (∀ kind : RecordKind,
      List.Forall₂ (kind.Completed r.guid) (kind.held r).items (kind.held next).items ∧
      (kind.held next).max = (kind.held r).max ∧
      ((kind.held r).clear.restore (kind.carried delivery.report)).2 = 0) ∧
    next.counters.named = r.counters.named ∧
    ∃ due carrier, next =
      { r with
        logs := next.logs
        spans := next.spans
        nextFlushMicros := due
        carrier } := by
  intro next
  rcases flush_cases T r now with ⟨_, hflush⟩ | ⟨identity, carrier, hready, hdelivered, hnext⟩
  · rw [hflush] at hsent
    cases hsent
  · rw [hdelivered, List.mem_singleton] at hsent
    subst hsent
    have hreturned : (r.delivery T identity now).isSettled (r.postponed now).guarantee = false :=
      (Delivery.isSettled_eq_false_iff _ _).mpr ⟨hfailed, hretain⟩
    have hsame : next =
        { r with
          logs := r.logs.map (stampLog r.guid)
          spans := r.spans.map (stampSpan r.guid)
          nextFlushMicros := laterBy now r.periodMicros
          carrier } := by
      rw [show next = (flush T r now).next from rfl, hnext]
      unfold after
      rw [if_neg (by simp [hreturned])]
      rfl
    have hheld : ∀ kind : RecordKind,
        kind.held next = (kind.held r).map (kind.stamp r.guid) := by
      intro kind
      rw [hsame]
      cases kind with
      | log => rfl
      | span => rfl
    refine ⟨?_, ?_, laterBy now r.periodMicros, carrier, ?_⟩
    · intro kind
      rw [hheld kind]
      exact ⟨kind.completed_map r.guid _, rfl, kind.restore_batch r identity now⟩
    · rw [hsame]
    · rw [hsame]

/-- The only place for logs is taken, by a record that was made before there was an
identity, and one log was given up for it; there is no place for spans. The first
report fails. -/
theorem flush_failed_outage :
    ∃ turn, create Recording.transport Outage.carrier (Outage.options 1) 7 [] 0 = .ok turn ∧
      let r := (run Recording.transport turn.next (Outage.actions.take 4)).next
      let next := (flush Recording.transport r 9).next
      r.counters = ⟨1, 0⟩ ∧ r.logs.items.map (·.runtimeGuid) = [""] ∧ r.logs.max = 1 ∧
      r.spans.max = 0 ∧ r.guarantee = .retainUntilAcknowledged ∧
      ∃ delivery ∈ (flush Recording.transport r 9).trace.deliveries, delivery.Failed ∧
        (∀ kind : RecordKind,
          List.Forall₂ (kind.Completed r.guid) (kind.held r).items (kind.held next).items ∧
          (kind.held next).max = (kind.held r).max ∧
          ((kind.held r).clear.restore (kind.carried delivery.report)).2 = 0) ∧
        next.counters.named = r.counters.named ∧
        ∃ due carrier, next =
          { r with
            logs := next.logs
            spans := next.spans
            nextFlushMicros := due
            carrier } :=
  ⟨_, rfl, by decide +kernel, by decide +kernel, by decide +kernel, by decide +kernel, rfl, _,
    List.mem_singleton.mpr rfl, ⟨_, rfl⟩,
    flush_failed Recording.transport _ 9 rfl _ (List.mem_singleton.mpr rfl) ⟨_, rfl⟩⟩

end Recorder

end Telemetry
