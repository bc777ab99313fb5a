import Mathlib.Algebra.BigOperators.Group.List.Basic
import Mathlib.Algebra.Ring.Int.Defs
import Telemetry.Proofs.Holding
import Telemetry.Proofs.Session

/-!
Every record that is accepted stays accounted for. The stock of a recorder is what
it holds and what its counter tells of; a push adds one to it, a settled delivery
carries all of it away, and nothing else moves it, not even a panic.
-/

namespace Telemetry

attribute [ext] Account

namespace RecordKind

variable {σ : Type}

open Recorder

/-- The records of a kind that are held and those that were given up since the
last report. -/
def stock (kind : RecordKind) (r : Recorder σ) : Int :=
  (kind.held r).length + kind.counter r

/-- The records of a kind that a delivery carries and those that it counts. -/
def share (kind : RecordKind) (delivery : Delivery) : Int :=
  (kind.carried delivery.report).length + delivery.report.counted kind.counterName

theorem stock_taken (kind : RecordKind) (action : Action) (r : Recorder σ)
    (hdisable : action ≠ .disable) :
    kind.stock (action.taken r) = kind.stock r + (action.record? r kind).toList.length := by
  unfold stock Buffer.length
  rcases kind.taken_cases action r hdisable with
    ⟨hnone, hheld, hcounter⟩ | ⟨record, hrecord, hheld, hcounter⟩
  · rw [hnone, hheld, hcounter]
    simp
  · have hlength := Buffer.push_length (kind.held r) record r.draws
    have hdrops : action.drops r kind = ((kind.held r).push record r.draws).2.1 := by
      simp only [Action.drops, hrecord]
    rw [hrecord, hheld, hcounter, hdrops]
    simp only [Option.toList_some, List.length_singleton]
    omega

/-- What an action settles is missing from the stock, and nothing else is. -/
theorem stock_apply (kind : RecordKind) (action : Action) (T : Transport σ) (r : Recorder σ) :
    ((Trace.settled r.guarantee (action.apply T r).trace).map kind.share).sum +
      kind.stock (action.apply T r).next = kind.stock (action.taken r) := by
  unfold Trace.settled stock share Buffer.length
  rcases kind.apply_cases action T r with
    ⟨hsilent, hheld, hcounter⟩ | ⟨identity, delivery, _, hsent, houtcome⟩
  · rw [hsilent, hheld, hcounter]
    simp
  · rcases houtcome with
      ⟨hsettled, hcarried, hcounted, hheld, hcounter⟩ | ⟨hreturned, hheld, hcounter⟩
    · rw [hsent, hheld, hcounter]
      simp [hsettled, hcarried, hcounted]
    · rw [hsent, hheld, hcounter]
      simp [hreturned]

theorem stock_run (kind : RecordKind) (T : Transport σ) (r : Recorder σ)
    (actions : List Action) (hdisable : Action.disable ∉ actions) :
    ((Trace.settled r.guarantee (run T r actions).trace).map kind.share).sum +
      kind.stock (run T r actions).next =
      kind.stock r + (kind.accepted T r actions).length := by
  induction actions generalizing r with
  | nil => simp [run, accepted, Trace.settled]
  | cons action rest ih =>
    obtain ⟨haction, hrest⟩ := not_or.mp (mt List.mem_cons.mpr hdisable)
    have hfirst := kind.stock_apply action T r
    have htaken := kind.stock_taken action r (Ne.symm haction)
    have hlater := ih (action.apply T r).next hrest
    rw [action.guarantee_apply T r] at hlater
    simp only [run, accepted, Trace.settled_append, List.map_append, List.sum_append,
      List.length_append]
    omega

/-- What an account says of one kind. -/
def ofAccount (kind : RecordKind) (account : Account) : Int :=
  match kind with
  | .log => account.logs
  | .span => account.spans

theorem ofAccount_add (kind : RecordKind) (a b : Account) :
    kind.ofAccount (a.add b) = kind.ofAccount a + kind.ofAccount b := by
  cases kind with
  | log => rfl
  | span => rfl

theorem ofAccount_foldl (kind : RecordKind) (accounts : List Account) (start : Account) :
    kind.ofAccount (accounts.foldl Account.add start) =
      kind.ofAccount start + (accounts.map kind.ofAccount).sum := by
  induction accounts generalizing start with
  | nil => simp
  | cons account rest ih =>
    rw [List.foldl_cons, ih, ofAccount_add, List.map_cons, List.sum_cons]
    omega

/-- A balance is what was settled and what is still in stock. -/
theorem ofAccount_balance (kind : RecordKind) (r : Recorder σ) (trace : Trace) :
    kind.ofAccount (.balance r trace.deliveries) =
      ((Trace.settled r.guarantee trace).map kind.share).sum + kind.stock r := by
  have hstart : kind.ofAccount {} = 0 := by
    cases kind with
    | log => rfl
    | span => rfl
  have hstock : kind.ofAccount (.ofRecorder r) = kind.stock r := by
    cases kind with
    | log => rfl
    | span => rfl
  have hshare : (fun delivery : Delivery => kind.ofAccount (.ofReport delivery.report)) =
      kind.share := by
    cases kind with
    | log => rfl
    | span => rfl
  unfold Account.balance Account.ofReports
  rw [ofAccount_add, ofAccount_foldl, hstart, hstock, List.map_map, List.map_map]
  change 0 + ((Trace.settled r.guarantee trace).map fun delivery : Delivery =>
    kind.ofAccount (.ofReport delivery.report)).sum + kind.stock r = _
  rw [hshare, Int.zero_add]

end RecordKind

/-- The balance of a run has grown by the number of records that it accepted. -/
theorem Account.balance_run {σ : Type} (T : Transport σ) (r : Recorder σ)
    (actions : List Recorder.Action) (hdisable : Recorder.Action.disable ∉ actions) :
    balance (r.run T actions).next (r.run T actions).trace.deliveries =
      (ofRecorder r).add ⟨(RecordKind.log.accepted T r actions).length,
        (RecordKind.span.accepted T r actions).length⟩ := by
  have hguarantee : (r.run T actions).next.guarantee = r.guarantee :=
    congrArg Recorder.Settings.guarantee (Recorder.settings_run T r actions)
  have hlogs := RecordKind.log.ofAccount_balance (r.run T actions).next (r.run T actions).trace
  have hspans := RecordKind.span.ofAccount_balance (r.run T actions).next (r.run T actions).trace
  rw [hguarantee, RecordKind.stock_run _ T r actions hdisable] at hlogs hspans
  exact Account.ext hlogs hspans

/-- The same of a session, in which spans are dropped and finished through handles. -/
theorem Session.balance_steps {σ : Type} (T : Transport σ) (s : Session σ)
    (steps : List (Clock × Step)) (hdisable : ∀ entry ∈ steps, entry.2 ≠ .disable) :
    Account.balance (s.run T steps).1.recorder (s.run T steps).2.deliveries =
      (Account.ofRecorder s.recorder).add
        ⟨(RecordKind.log.accepted T s.recorder (s.runActions T steps)).length,
          (RecordKind.span.accepted T s.recorder (s.runActions T steps)).length⟩ := by
  obtain ⟨hlast, htrace⟩ := s.run_follows T steps
  rw [hlast, htrace]
  exact Account.balance_run T s.recorder (s.runActions T steps)
    (s.disable_not_mem_runActions T steps hdisable)

namespace Recorder

variable {σ : Type}

/-- Up to the first call of disable, every accepted record is in a settled report
or pending, or a settled report or the present counter tells that it was given
up; exactly one of these, and both kinds of records apart. -/
theorem accepted_accounted (T : Transport σ) (carrier : σ) (options : Options)
    (processId : UInt32) (draws : List UInt64) (now : Int) (turn : Turn σ)
    (hcreate : create T carrier options processId draws now = .ok turn)
    (actions : List Action) (hdisable : Action.disable ∉ actions) (kind : RecordKind) :
    let last := run T turn.next actions
    let settled := last.trace.settled options.delivery
    ((kind.accepted T turn.next actions).length : Int) =
      (settled.map fun delivery => ((kind.carried delivery.report).length : Int)).sum +
      (kind.held last.next).length +
      (settled.map fun delivery => delivery.report.counted kind.counterName).sum +
      kind.counter last.next := by
  intro last settled
  have hfresh := create_fresh T carrier options processId draws now turn hcreate
  have hstart : kind.stock turn.next = 0 := by
    obtain ⟨hheld, hcounter⟩ := kind.held_of_fresh hfresh
    unfold RecordKind.stock Buffer.length
    rw [hheld, hcounter]
    rfl
  have hrun := kind.stock_run T turn.next actions hdisable
  rw [hstart, hfresh.guarantee] at hrun
  have hshares : (settled.map kind.share).sum =
      (settled.map fun delivery => ((kind.carried delivery.report).length : Int)).sum +
      (settled.map fun delivery => delivery.report.counted kind.counterName).sum :=
    List.sum_map_add
  change (settled.map kind.share).sum + kind.stock last.next = _ at hrun
  rw [hshares] at hrun
  unfold RecordKind.stock at hrun
  omega

/-- With two places for logs one is given up between the reports, and the breakdown
settles the last report; without places every span is given up. -/
theorem accepted_accounted_outage :
    ∃ turn, create Recording.transport Outage.carrier (Outage.options 2) 7 [] 0 = .ok turn ∧
      Action.disable ∉ Outage.actions ∧
      let last := run Recording.transport turn.next Outage.actions
      let settled := last.trace.settled .retainUntilAcknowledged
      settled.map RecordKind.log.share = [3, 1] ∧
      ((RecordKind.log.accepted Recording.transport turn.next Outage.actions).length : Int) =
        (settled.map fun delivery =>
          ((RecordKind.log.carried delivery.report).length : Int)).sum +
        (RecordKind.log.held last.next).length +
        (settled.map fun delivery =>
          delivery.report.counted RecordKind.log.counterName).sum +
        RecordKind.log.counter last.next :=
  ⟨_, rfl, by simp [Outage.actions], by decide +kernel,
    accepted_accounted Recording.transport Outage.carrier (Outage.options 2) 7 [] 0 _ rfl
      Outage.actions (by simp [Outage.actions]) .log⟩

end Recorder

end Telemetry
