import Mathlib.Data.List.Forall2
import Telemetry.Proofs.Holding

/-!
While no buffer overflows, records are settled in the order in which they were
accepted and each of them once. The settled reports of a run and the buffer behind
them, read as one list, are the accepted records, but for guids that were not
known when a record was made. A batch that comes back any number of times stands
where it stood, in front of what was accepted since.
-/

namespace Telemetry

namespace RecordKind

variable {σ : Type}

open Recorder

theorem stamped_refl (kind : RecordKind) (guid : String) (records : List kind.Record) :
    List.Forall₂ (kind.Stamped guid) records records :=
  List.forall₂_same.mpr fun record _ => Stamped.refl kind guid record

theorem stamped_map (kind : RecordKind) (guid : String) (records : List kind.Record) :
    List.Forall₂ (kind.Stamped guid) records (records.map (kind.stamp guid)) :=
  List.forall₂_map_right_iff.mpr
    (List.forall₂_same.mpr fun record _ => kind.stamped_stamp guid record)

theorem stamped_trans {kind : RecordKind} {guid : String} {as bs cs : List kind.Record}
    (hab : List.Forall₂ (kind.Stamped guid) as bs)
    (hbc : List.Forall₂ (kind.Stamped guid) bs cs) :
    List.Forall₂ (kind.Stamped guid) as cs := by
  induction hab generalizing cs with
  | nil => exact hbc
  | cons hhead _ ih =>
    cases hbc with
    | cons hhead' htail' => exact List.Forall₂.cons (hhead.trans hhead') (ih htail')

theorem items_taken (kind : RecordKind) (action : Action) (r : Recorder σ)
    (hdisable : action ≠ .disable) (hkept : action.drops r kind = false) :
    (kind.held (action.taken r)).items =
      (kind.held r).items ++ (action.record? r kind).toList := by
  rcases kind.taken_cases action r hdisable with
    ⟨hnone, hheld, _⟩ | ⟨record, hrecord, hheld, _⟩
  · rw [hnone, hheld]
    simp
  · simp only [Action.drops, hrecord] at hkept
    rw [hrecord, hheld, Buffer.push_items_of_kept (kind.held r) record r.draws hkept]
    rfl

/-- The records that a list of deliveries carries, in the order of sending. -/
def delivered (kind : RecordKind) (deliveries : List Delivery) : List kind.Record :=
  deliveries.flatMap fun delivery => kind.carried delivery.report

theorem delivered_append (kind : RecordKind) (a b : List Delivery) :
    kind.delivered (a ++ b) = kind.delivered a ++ kind.delivered b :=
  List.flatMap_append

/-- What was held before an action has been settled by it or is still held, in the
same order and settled records first. -/
theorem order_apply (kind : RecordKind) (action : Action) (T : Transport σ) (r : Recorder σ)
    (guid : String)
    (hguid : ∀ identity, (action.apply T r).next.identity = some identity → identity.guid = guid) :
    List.Forall₂ (kind.Stamped guid) (kind.held (action.taken r)).items
      (kind.delivered (Trace.settled r.guarantee (action.apply T r).trace) ++
        (kind.held (action.apply T r).next).items) := by
  unfold Trace.settled delivered
  rcases kind.apply_cases action T r with
    ⟨hsilent, hheld, _⟩ | ⟨identity, delivery, hidentity, hsent, houtcome⟩
  · rw [hsilent, hheld]
    exact kind.stamped_refl guid _
  · have hstamp := hguid identity hidentity
    subst hstamp
    rcases houtcome with ⟨hsettled, hcarried, _, hheld, _⟩ | ⟨hreturned, hheld, _⟩
    · rw [hsent, hheld]
      simp only [List.filter_cons_of_pos hsettled, List.filter_nil, List.flatMap_cons,
        List.flatMap_nil, List.append_nil, hcarried]
      exact kind.stamped_map identity.guid _
    · have hkept : ¬ delivery.isSettled r.guarantee = true := by simp [hreturned]
      rw [hsent, hheld]
      simp only [List.filter_cons_of_neg hkept, List.filter_nil, List.flatMap_nil,
        List.nil_append]
      exact kind.stamped_map identity.guid _

/-- What was held at first and what was accepted since, in this order, is what a run
settled and what it still holds. -/
theorem order_run (kind : RecordKind) (T : Transport σ) (r : Recorder σ)
    (actions : List Action) (hdisable : Action.disable ∉ actions)
    (hroom : kind.overflows T r actions = 0) (guid : String)
    (hguid : ∀ identity, (run T r actions).next.identity = some identity → identity.guid = guid) :
    List.Forall₂ (kind.Stamped guid) ((kind.held r).items ++ kind.accepted T r actions)
      (kind.delivered (Trace.settled r.guarantee (run T r actions).trace) ++
        (kind.held (run T r actions).next).items) := by
  induction actions generalizing r with
  | nil =>
    have hnothing : kind.delivered (Trace.settled r.guarantee (run T r []).trace) = [] := rfl
    rw [hnothing]
    simp only [accepted, List.append_nil, List.nil_append]
    exact kind.stamped_refl guid _
  | cons action rest ih =>
    obtain ⟨haction, hrest⟩ := not_or.mp (mt List.mem_cons.mpr hdisable)
    have hdropped : action.drops r kind = false ∧
        kind.overflows T (action.apply T r).next rest = 0 := by
      simpa [overflows] using hroom
    have hknown : ∀ identity, (action.apply T r).next.identity = some identity →
        identity.guid = guid := fun identity hidentity =>
      hguid identity (identity_run T (action.apply T r).next rest identity hidentity)
    have hfirst := kind.order_apply action T r guid hknown
    rw [kind.items_taken action r (Ne.symm haction) hdropped.1] at hfirst
    have hlater := ih (action.apply T r).next hrest hdropped.2 hguid
    rw [action.guarantee_apply T r] at hlater
    let held := (kind.held r).items
    let record := (action.record? r kind).toList
    let later := kind.accepted T (action.apply T r).next rest
    let now := kind.delivered (Trace.settled r.guarantee (action.apply T r).trace)
    let left := (kind.held (action.apply T r).next).items
    -- The records accepted later stand behind those that this action left.
    have hbehind : List.Forall₂ (kind.Stamped guid) ((held ++ record) ++ later)
        ((now ++ left) ++ later) :=
      List.rel_append hfirst (kind.stamped_refl guid later)
    have hahead := List.rel_append (kind.stamped_refl guid now) hlater
    rw [List.append_assoc, List.append_assoc] at hbehind
    have hwhole := stamped_trans hbehind hahead
    simp only [run, accepted, Trace.settled_append, delivered_append, List.append_assoc]
    exact hwhole

end RecordKind

namespace Recorder

variable {σ : Type}

/-- A run without overflow settles what it accepted, in the order of the calls and
each record once, up to what is still held. Of a record only an empty guid may have
changed, into the one that the recorder reports under. Overflow of the other kind
does not matter. -/
theorem accepted_settled_in_order (T : Transport σ) (carrier : σ) (options : Options)
    (processId : UInt32) (draws : List UInt64) (now : Int) (turn : Turn σ)
    (hcreate : create T carrier options processId draws now = .ok turn)
    (actions : List Action) (hdisable : Action.disable ∉ actions) (kind : RecordKind)
    (hroom : kind.overflows T turn.next actions = 0) :
    let last := run T turn.next actions
    List.Forall₂ (kind.Stamped last.next.guid) (kind.accepted T turn.next actions)
      (kind.delivered (last.trace.settled options.delivery) ++ (kind.held last.next).items) := by
  intro last
  have hfresh := create_fresh T carrier options processId draws now turn hcreate
  have horder := kind.order_run T turn.next actions hdisable hroom last.next.guid
    fun identity hidentity => (guid_of_identity hidentity).symm
  rw [hfresh.guarantee, (kind.held_of_fresh hfresh).1, List.nil_append] at horder
  exact horder

/-- Three places for logs are enough here, while every span is given up: the logs come
back once and go out with the one that was made since. -/
theorem accepted_settled_in_order_outage :
    ∃ turn, create Recording.transport Outage.carrier (Outage.options 3) 7 [] 0 = .ok turn ∧
      Action.disable ∉ Outage.actions ∧
      RecordKind.log.overflows Recording.transport turn.next Outage.actions = 0 ∧
      RecordKind.span.overflows Recording.transport turn.next Outage.actions = 1 ∧
      let last := run Recording.transport turn.next Outage.actions
      (RecordKind.log.accepted Recording.transport turn.next Outage.actions).length = 5 ∧
      List.Forall₂ (RecordKind.log.Stamped last.next.guid)
        (RecordKind.log.accepted Recording.transport turn.next Outage.actions)
        (RecordKind.log.delivered (last.trace.settled .retainUntilAcknowledged) ++
          (RecordKind.log.held last.next).items) :=
  ⟨_, rfl, by simp [Outage.actions], by decide +kernel, by decide +kernel, by decide +kernel,
    accepted_settled_in_order Recording.transport Outage.carrier (Outage.options 3) 7 [] 0 _ rfl
      Outage.actions (by simp [Outage.actions]) .log (by decide +kernel)⟩

end Recorder

end Telemetry
