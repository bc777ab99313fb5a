import Telemetry.Proofs.Window

/-!
Runs whose clock does not go back. Every record then falls into the window of the
report that carries it, whether it went out at once, came back from a report that
failed, or had to wait until it was known who reports.

What is kept up is that everything held is stamped between the start of the open
window and any reading that is still to come. A window that moves on ends at a
reading, and by then nothing is held that is older.
-/

namespace Telemetry

private theorem stampLog_timestampMicros (guid : String) (record : LogRecord) :
    (Recorder.stampLog guid record).timestampMicros = record.timestampMicros := by
  unfold Recorder.stampLog
  split
  · rfl
  · rfl

private theorem stampSpan_youngestMicros (guid : String) (record : SpanRecord) :
    (Recorder.stampSpan guid record).youngestMicros = record.youngestMicros := by
  unfold Recorder.stampSpan
  split
  · rfl
  · rfl

namespace RecordKind

/-- The instant at which a log was made, or a span ended. -/
def instant (kind : RecordKind) (record : kind.Record) : Int :=
  match kind with
  | .log => LogRecord.timestampMicros record
  | .span => SpanRecord.youngestMicros record

theorem instant_stamp (kind : RecordKind) (guid : String) (record : kind.Record) :
    kind.instant (kind.stamp guid record) = kind.instant record := by
  cases kind with
  | log => exact stampLog_timestampMicros guid record
  | span => exact stampSpan_youngestMicros guid record

end RecordKind

/-- Every record of the report falls into its window. -/
def Report.Encloses (report : Report) : Prop :=
  ∀ kind : RecordKind, ∀ record ∈ kind.carried report,
    report.oldestMicros ≤ kind.instant record ∧ kind.instant record ≤ report.youngestMicros

namespace Recorder

variable {σ : Type}

/-- The readings for the record that an action adds and for whether a flush is due.
A recorder that is switched off does not look at the clock. -/
def Action.stamps (action : Action) (r : Recorder σ) : List Int :=
  match action with
  | .log clock _ | .finishSpan clock _ => if r.enabled then [clock.stamp, clock.due] else []
  | .setIdentity .. | .flush _ | .shutdown _ | .disable => []

/-- The reading for a flush, if there is one. -/
def Action.flushes (action : Action) (r : Recorder σ) : List Int :=
  if r.enabled then (action.attempt? r).toList else []

/-- The readings of the clock in a run, in the order in which they are taken. -/
def readings (T : Transport σ) (r : Recorder σ) : List Action → List Int
  | [] => []
  | action :: rest =>
    action.stamps r ++ action.flushes r ++ readings T (action.apply T r).next rest

/-- A span that the action ends was started no later than that. -/
def Action.Started (action : Action) : Prop :=
  ∀ clock data, action = .finishSpan clock data → data.startMicros ≤ clock.stamp

/-- Everything held is stamped in the open window, which is no later than the
readings to come. -/
structure Current (r : Recorder σ) (coming : List Int) : Prop where
  opened : ∀ reading ∈ coming, r.reportStartMicros ≤ reading
  held : ∀ kind : RecordKind, ∀ record ∈ (kind.held r).items,
    r.reportStartMicros ≤ kind.instant record ∧ ∀ reading ∈ coming, kind.instant record ≤ reading

theorem Current.of_subset {r : Recorder σ} {coming fewer : List Int} (hcurrent : r.Current coming)
    (hfewer : fewer ⊆ coming) : r.Current fewer where
  opened reading hreading := hcurrent.opened reading (hfewer hreading)
  held kind record hrecord := by
    obtain ⟨hstart, hlater⟩ := hcurrent.held kind record hrecord
    exact ⟨hstart, fun reading hreading => hlater reading (hfewer hreading)⟩

/-- A record that an action adds is stamped with the first reading of the action. -/
theorem Action.stamps_of_record (action : Action) (r : Recorder σ) (kind : RecordKind)
    (record : kind.Record) (hrecord : action.record? r kind = some record)
    (hstarted : action.Started) : ∃ due, action.stamps r = [kind.instant record, due] := by
  have henabled := enabled_of_record hrecord
  cases action with
  | log clock entry =>
    cases kind with
    | log =>
      rw [record?_log r clock entry henabled] at hrecord
      cases hrecord
      exact ⟨clock.due, if_pos henabled⟩
    | span => cases hrecord
  | finishSpan clock data =>
    cases kind with
    | log => cases hrecord
    | span =>
      have hend : max clock.stamp data.startMicros = clock.stamp :=
        Int.max_eq_left (hstarted clock data rfl)
      rw [record?_finishSpan r clock data henabled, hend] at hrecord
      cases hrecord
      exact ⟨clock.due, if_pos henabled⟩
  | setIdentity groupName accessToken => cases hrecord
  | flush now => cases hrecord
  | shutdown now => cases hrecord
  | disable => cases hrecord

/-- What is taken in is stamped within the window, and after everything held. -/
theorem Action.current_taken (action : Action) (r : Recorder σ) (coming : List Int)
    (hcurrent : r.Current (action.stamps r ++ coming))
    (hforward : (action.stamps r ++ coming).Pairwise (· ≤ ·)) (hstarted : action.Started) :
    (action.taken r).Current coming := by
  have hrest : r.Current coming := hcurrent.of_subset (List.subset_append_right _ _)
  refine ⟨?_, ?_⟩
  · rw [action.reportStart_taken r]
    exact hrest.opened
  · intro kind record hmember
    rw [action.reportStart_taken r]
    by_cases hdisable : action = .disable
    · subst hdisable
      cases kind with
      | log => cases hmember
      | span => cases hmember
    · rcases kind.taken_cases action r hdisable with ⟨_, hheld, _⟩ | ⟨added, hadded, hheld, _⟩
      · rw [hheld] at hmember
        exact hrest.held kind record hmember
      · rw [hheld] at hmember
        rcases Buffer.mem_push _ _ _ _ hmember with hold | rfl
        · exact hrest.held kind record hold
        · obtain ⟨due, hstamps⟩ := action.stamps_of_record r kind record hadded hstarted
          rw [hstamps] at hcurrent hforward
          refine ⟨hcurrent.opened _ (by simp), ?_⟩
          intro reading hreading
          exact (List.pairwise_cons.mp hforward).1 reading (List.mem_cons_of_mem _ hreading)

theorem Action.enabled_of_taken (action : Action) (r : Recorder σ)
    (henabled : (action.taken r).enabled = true) : r.enabled = true := by
  cases hr : r.enabled with
  | true => rfl
  | false =>
    rw [(action.enabled_taken r).mpr (Or.inl hr)] at henabled
    cases henabled

/-- A flush sends what is held in a window that reaches from the start of the open
one to the reading of the flush. -/
theorem encloses_batch (r : Recorder σ) (identity : Identity) (now : Int) (later : List Int)
    (hcurrent : r.Current (now :: later)) : (r.batch identity now).Encloses := by
  intro kind record hmember
  rw [kind.carried_batch r identity now] at hmember
  obtain ⟨held, hheld, rfl⟩ := List.mem_map.mp hmember
  obtain ⟨hstart, hlater⟩ := hcurrent.held kind held hheld
  rw [kind.instant_stamp]
  exact ⟨hstart, Int.le_trans (hlater now List.mem_cons_self) (Int.le_max_left _ _)⟩

/-- The window moves on only when nothing is held any more, and then to a reading
that is over. -/
theorem current_after (T : Transport σ) (r : Recorder σ) (identity : Identity) (now : Int)
    (carrier : σ) (later : List Int) (hcurrent : r.Current (now :: later))
    (hforward : (now :: later).Pairwise (· ≤ ·)) :
    ((r.postponed now).after (r.delivery T identity now) carrier).Current later := by
  let delivery := r.delivery T identity now
  have hheld (kind : RecordKind) : kind.held (r.postponed now) = kind.held r := by
    cases kind with
    | log => rfl
    | span => rfl
  cases hsettled : delivery.isSettled (r.postponed now).guarantee with
  | true =>
    have hempty (kind : RecordKind) := (kind.held_after_settled (r.postponed now) delivery carrier
      hsettled).1
    refine ⟨?_, ?_⟩
    · intro reading hreading
      have hopened := hcurrent.opened reading (List.mem_cons_of_mem _ hreading)
      have hnow := (List.pairwise_cons.mp hforward).1 reading hreading
      have hyoungest : delivery.report.youngestMicros ≤ reading := Int.max_le.mpr ⟨hnow, hopened⟩
      rw [reportStart_after]
      unfold Delivery.nextOldest
      split
      · exact hopened
      · exact hopened
      · exact hyoungest
    · intro kind record hmember
      rw [hempty kind] at hmember
      cases hmember
  | false =>
    have hreturned (kind : RecordKind) := (kind.held_after_returned (r.postponed now) delivery
      carrier hsettled).1
    have hstart : ((r.postponed now).after delivery carrier).reportStartMicros =
        r.reportStartMicros := by
      unfold after
      rw [if_neg (by simp [hsettled])]
      rfl
    have hrest := hcurrent.of_subset (List.subset_cons_self now later)
    refine ⟨?_, ?_⟩
    · rw [hstart]
      exact hrest.opened
    · intro kind record hmember
      rw [hreturned kind, hheld kind, Buffer.map_items] at hmember
      obtain ⟨held, hold, rfl⟩ := List.mem_map.mp hmember
      rw [hstart, kind.instant_stamp]
      exact hrest.held kind held hold

theorem Action.current_apply (action : Action) (T : Transport σ) (r : Recorder σ)
    (later : List Int) (hcurrent : r.Current (action.stamps r ++ action.flushes r ++ later))
    (hforward : (action.stamps r ++ action.flushes r ++ later).Pairwise (· ≤ ·))
    (hstarted : action.Started) :
    (∀ delivery ∈ (action.apply T r).trace.deliveries, delivery.report.Encloses) ∧
      (action.apply T r).next.Current later := by
  rw [List.append_assoc] at hcurrent hforward
  have htaken := action.current_taken r _ hcurrent hforward hstarted
  rcases action.apply_attempt T r with
    ⟨hsilent, due, carrier, hnext⟩ | ⟨identity, now, carrier, hattempt, hready, hsent, hnext⟩
  · have hrest := htaken.of_subset (List.subset_append_right _ _)
    rw [hsilent, hnext]
    refine ⟨fun _ hmember => absurd hmember List.not_mem_nil, hrest.opened, ?_⟩
    intro kind
    cases kind with
    | log => exact hrest.held .log
    | span => exact hrest.held .span
  · have henabled := action.enabled_of_taken r hready.enabled
    have hflushes : action.flushes r = [now] := by
      unfold flushes
      rw [if_pos henabled, hattempt]
      rfl
    rw [hflushes] at htaken hforward
    have hlater := (List.pairwise_append.mp hforward).2.1
    rw [hsent, hnext]
    refine ⟨?_, current_after T (action.taken r) identity now carrier later htaken hlater⟩
    intro delivery hmember
    rw [List.mem_singleton] at hmember
    subst hmember
    exact encloses_batch (action.taken r) identity now later htaken

theorem encloses_run (T : Transport σ) (r : Recorder σ) (actions : List Action)
    (hcurrent : r.Current (readings T r actions))
    (hforward : (readings T r actions).Pairwise (· ≤ ·))
    (hstarted : ∀ action ∈ actions, action.Started) :
    ∀ delivery ∈ (run T r actions).trace.deliveries, delivery.report.Encloses := by
  induction actions generalizing r with
  | nil =>
    intro delivery hmember
    cases hmember
  | cons action rest ih =>
    obtain ⟨hfirst, hnext⟩ := action.current_apply T r _ hcurrent hforward
      (hstarted action List.mem_cons_self)
    have hlater := (List.pairwise_append.mp hforward).2.1
    intro delivery hmember
    simp only [run, Trace.deliveries_append, List.mem_append] at hmember
    rcases hmember with hnow | hrest
    · exact hfirst delivery hnow
    · exact ih (action.apply T r).next hnext hlater
        (fun action haction => hstarted action (List.mem_cons_of_mem _ haction)) delivery hrest

/-- One place for either kind. -/
def Outage.forwardOptions : Options :=
  { Outage.options 1 with maxSpanRecords := 1 }

/-- Few actions with a clock that does not go back: a flush before the identity, and
three that send. -/
def Outage.forward : List Action :=
  [.log (.all 1) { level := .info, message := "one" },
    .flush 2,
    .finishSpan (.all 3) { guid := "span", operation := "work", startMicros := 2 },
    .setIdentity "group" "token",
    .flush 4,
    .log (.all 6) { level := .warn, message := "two" },
    .log (.all 7) { level := .warn, message := "three" },
    .flush 8,
    .log (.all 9) { level := .error, message := "four" },
    .shutdown 10]

theorem Outage.forward_started (clock : Readings) (data : SpanData)
    (hmember : .finishSpan clock data ∈ forward) : data.startMicros ≤ clock.stamp := by
  simp only [forward, List.mem_cons, Action.finishSpan.injEq, reduceCtorEq, false_or,
    List.not_mem_nil, or_false] at hmember
  obtain ⟨rfl, rfl⟩ := hmember
  decide

/-- While the clock does not go back, every report encloses its records: logs by when
they were made and spans by when they ended. The readings of a run are those taken
under the lock; the start of a span is read outside of it, but before its end. -/
theorem records_in_window (T : Transport σ) (carrier : σ) (options : Options)
    (processId : UInt32) (draws : List UInt64) (now : Int) (turn : Turn σ)
    (hcreate : create T carrier options processId draws now = .ok turn)
    (actions : List Action)
    (hforward : (now :: readings T turn.next actions).Pairwise (· ≤ ·))
    (hstarted : ∀ clock data, .finishSpan clock data ∈ actions →
      data.startMicros ≤ clock.stamp) :
    ∀ delivery ∈ (run T turn.next actions).trace.deliveries,
      (∀ record ∈ delivery.report.logRecords,
        delivery.report.oldestMicros ≤ record.timestampMicros ∧
        record.timestampMicros ≤ delivery.report.youngestMicros) ∧
      ∀ record ∈ delivery.report.spanRecords,
        delivery.report.oldestMicros ≤ record.youngestMicros ∧
        record.youngestMicros ≤ delivery.report.youngestMicros := by
  have hfresh := create_fresh T carrier options processId draws now turn hcreate
  obtain ⟨hopened, hlater⟩ := List.pairwise_cons.mp hforward
  have hcurrent : turn.next.Current (readings T turn.next actions) := by
    refine ⟨?_, ?_⟩
    · rw [hfresh.reportStartMicros]
      exact hopened
    · intro kind record hmember
      rw [(kind.held_of_fresh hfresh).1] at hmember
      cases hmember
  have hencloses := encloses_run T turn.next actions hcurrent hlater
    (by rintro action haction clock data rfl; exact hstarted clock data haction)
  intro delivery hmember
  exact ⟨hencloses delivery hmember .log, hencloses delivery hmember .span⟩

/-- A log and a span are made before it is known who reports, come back once, and go
out with a log that was made since and took the place of the other one. The breakdown
of the transport loses the last log and leaves the window. -/
theorem records_in_window_outage :
    ∃ turn, create Recording.transport Outage.carrier Outage.forwardOptions 7 [] 0 = .ok turn ∧
      let readings := readings Recording.transport turn.next Outage.forward
      let sent := (run Recording.transport turn.next Outage.forward).trace.deliveries
      readings = [1, 1, 2, 3, 3, 4, 6, 6, 7, 7, 8, 9, 9, 10] ∧
      (0 :: readings).Pairwise (· ≤ ·) ∧
      (∀ clock data, .finishSpan clock data ∈ Outage.forward → data.startMicros ≤ clock.stamp) ∧
      (sent.map fun delivery => (delivery.report.oldestMicros, delivery.report.youngestMicros,
        delivery.report.logRecords.map (·.timestampMicros),
        delivery.report.spanRecords.map (·.youngestMicros))) =
        [(0, 4, [1], [3]), (0, 8, [7], [3]), (8, 10, [9], [])] ∧
      ∀ delivery ∈ sent,
        (∀ record ∈ delivery.report.logRecords,
          delivery.report.oldestMicros ≤ record.timestampMicros ∧
          record.timestampMicros ≤ delivery.report.youngestMicros) ∧
        ∀ record ∈ delivery.report.spanRecords,
          delivery.report.oldestMicros ≤ record.youngestMicros ∧
          record.youngestMicros ≤ delivery.report.youngestMicros :=
  ⟨_, rfl, by decide +kernel, by decide +kernel, Outage.forward_started, by decide +kernel,
    records_in_window Recording.transport Outage.carrier Outage.forwardOptions 7 [] 0 _ rfl
      Outage.forward (by decide +kernel) Outage.forward_started⟩

end Recorder

end Telemetry
