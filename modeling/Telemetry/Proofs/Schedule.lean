import Mathlib.Data.List.Chain
import Telemetry.Proofs.Disable

/-!
When flushes happen. Each attempt sets the next one a period after its own reading of
the clock, whatever comes of it, and the making of a recorder counts as an attempt. An
action that adds a record looks at another reading first, and attempts a flush if that
reading has come to the deadline. No reading is assumed to be later than another one.
-/

namespace Telemetry

namespace Recorder

variable {σ : Type}

/-- A flush that is attempted: the reading that was found to be due, if it was not asked
for by a flush or a shutdown, and the reading that it starts with. -/
structure Attempt where
  due : Option Int := none
  reading : Int
  deriving DecidableEq, Repr

/-- The readings of an action that adds a record. -/
def Action.readings? : Action → Option Readings
  | .log clock _ | .finishSpan clock _ => some clock
  | .setIdentity _ _ | .flush _ | .shutdown _ | .disable => none

/-- The flush that an action attempts. A recorder that is switched off attempts none. -/
def Action.attempted? (action : Action) (r : Recorder σ) : Option Attempt :=
  if r.enabled then
    (action.attempt? r).map fun reading => ⟨action.readings?.map (·.due), reading⟩
  else none

/-- The flushes that a run attempts. -/
def attempted (T : Transport σ) (r : Recorder σ) : List Action → List Attempt
  | [] => []
  | action :: rest => (action.attempted? r).toList ++ attempted T (action.apply T r).next rest

/-- A period of more microseconds than 64 bits hold is cut short without harm: the sum
would be cut at the same instant. -/
theorem laterBy_micros (now : Int) (period : Duration) (hnow : 0 ≤ now) :
    laterBy now period.micros =
      min (now + (period.totalNanos / 1000 : Nat)) Duration.lastMicros := by
  unfold laterBy Duration.micros
  omega

/-! ## What moves the deadline -/

theorem nextFlush_after (r : Recorder σ) (delivery : Delivery) (carrier : σ) :
    (r.after delivery carrier).nextFlushMicros = r.nextFlushMicros := by
  unfold after
  split
  · rfl
  · rfl

/-- A flush moves the deadline before anything else can go wrong. -/
theorem nextFlush_flush (T : Transport σ) (r : Recorder σ) (now : Int) :
    (flush T r now).next.nextFlushMicros =
      if r.enabled then laterBy now r.periodMicros else r.nextFlushMicros := by
  rcases flush_cases T r now with ⟨_, hflush⟩ | ⟨identity, carrier, hready, _, hnext⟩
  · rw [hflush]
    dsimp only
    split
    · rfl
    · rfl
  · rw [hnext, nextFlush_after, if_pos hready.enabled]
    rfl

theorem Action.nextFlush_taken (action : Action) (r : Recorder σ) :
    (action.taken r).nextFlushMicros = r.nextFlushMicros := by
  have htaking := action.taking r
  generalize action.taken r = recorded at htaking ⊢
  cases htaking with
  | nothing _ => rfl
  | log record _ _ => rfl
  | span record _ _ => rfl
  | identity _ _ identity _ _ _ => rfl
  | flag _ => rfl
  | off _ _ => rfl

theorem Action.period_apply (action : Action) (T : Transport σ) (r : Recorder σ) :
    (action.apply T r).next.periodMicros = r.periodMicros :=
  congrArg Settings.periodMicros (action.settings_apply T r)

/-- Taking something in does not switch a recorder off, if a flush is to follow. -/
theorem Action.enabled_taken_of_attempt (action : Action) (r : Recorder σ) {now : Int}
    (hattempt : action.attempt? r = some now) : (action.taken r).enabled = r.enabled := by
  have hother : action ≠ .disable := by
    rintro rfl
    simp [attempt?] at hattempt
  have hoff : (action.taken r).enabled = false ↔ r.enabled = false := by
    simp [action.enabled_taken r, hother]
  have hon : (action.taken r).enabled = true ↔ r.enabled = true := by
    simpa using not_congr hoff
  exact Bool.eq_iff_iff.mpr hon

/-- An action sets the deadline anew if it attempts a flush and leaves it alone if not. -/
theorem Action.nextFlush_apply (action : Action) (T : Transport σ) (r : Recorder σ) :
    (action.apply T r).next.nextFlushMicros =
      ((action.attempted? r).map fun attempt => laterBy attempt.reading r.periodMicros).getD
        r.nextFlushMicros := by
  have hperiod : (action.taken r).periodMicros = r.periodMicros :=
    congrArg Settings.periodMicros (action.settings_taken r)
  rcases action.apply_cases T r with ⟨hnone, _, hnext⟩ | ⟨now, carrier, hattempt, _, hnext⟩
  · rw [hnext, action.nextFlush_taken r]
    simp [attempted?, hnone]
  · have henabled := action.enabled_taken_of_attempt r hattempt
    rw [hnext]
    dsimp only
    rw [nextFlush_flush, hperiod, action.nextFlush_taken r, henabled]
    cases hon : r.enabled with
    | true => simp [attempted?, hon, hattempt]
    | false => simp [attempted?, hon]

/-- An action that adds a record attempts a flush if it is accepted and found due. -/
theorem Action.attempt?_of_readings (action : Action) (r : Recorder σ) {clock : Readings}
    (hreadings : action.readings? = some clock) :
    action.attempt? r =
      if r.enabled ∧ r.nextFlushMicros ≤ clock.due then some clock.flush else none := by
  cases action with
  | log clock entry =>
    cases hreadings
    rfl
  | finishSpan clock data =>
    cases hreadings
    rfl
  | setIdentity groupName accessToken => cases hreadings
  | flush now => cases hreadings
  | shutdown now => cases hreadings
  | disable => cases hreadings

/-- A reading that a flush was found due at has come to the deadline. -/
theorem Action.due_of_attempted (action : Action) (r : Recorder σ) {attempt : Attempt}
    (hattempted : action.attempted? r = some attempt) :
    ∀ due ∈ attempt.due, r.nextFlushMicros ≤ due := by
  unfold attempted? at hattempted
  split at hattempted
  case isFalse => cases hattempted
  case isTrue =>
    obtain ⟨reading, hattempt, rfl⟩ := Option.map_eq_some_iff.mp hattempted
    intro due hdue
    obtain ⟨clock, hclock, rfl⟩ := Option.map_eq_some_iff.mp hdue
    rw [action.attempt?_of_readings r hclock] at hattempt
    split at hattempt
    case isTrue hfound => exact hfound.2
    case isFalse => cases hattempt

/-! ## Whole runs -/

/-- If the deadline is a period after some attempt at first, then it stays a period after the
last one, and nobody who was not asked to flush does so before it. -/
theorem schedule_run (T : Transport σ) (r : Recorder σ) (actions : List Action)
    (first : Attempt) (hfirst : r.nextFlushMicros = laterBy first.reading r.periodMicros) :
    (run T r actions).next.nextFlushMicros =
      laterBy ((attempted T r actions).getLastD first).reading r.periodMicros ∧
    (first :: attempted T r actions).IsChain fun a b =>
      ∀ due ∈ b.due, laterBy a.reading r.periodMicros ≤ due := by
  induction actions generalizing r first with
  | nil => exact ⟨hfirst, List.isChain_singleton first⟩
  | cons action rest ih =>
    have hperiod := action.period_apply T r
    have hstep := action.nextFlush_apply T r
    simp only [run, attempted]
    cases hattempted : action.attempted? r with
    | none =>
      rw [hattempted] at hstep
      have hrest := ih (action.apply T r).next first (by simpa [hperiod, hfirst] using hstep)
      rw [hperiod] at hrest
      simpa using hrest
    | some attempt =>
      -- The rest of the run is measured from this attempt, not from the first one.
      rw [hattempted] at hstep
      have hrest := ih (action.apply T r).next attempt (by simpa [hperiod] using hstep)
      rw [hperiod] at hrest
      obtain ⟨hnext, hspaced⟩ := hrest
      have hdue := action.due_of_attempted r hattempted
      rw [hfirst] at hdue
      simp only [Option.toList_some, List.cons_append, List.nil_append, List.getLastD_cons]
      exact ⟨hnext, List.isChain_cons_cons.mpr ⟨hdue, hspaced⟩⟩

theorem create_schedule (T : Transport σ) (carrier : σ) (options : Options)
    (processId : UInt32) (draws : List UInt64) (now : Int) (turn : Turn σ)
    (hcreate : create T carrier options processId draws now = .ok turn) :
    turn.next.periodMicros = options.reportingPeriod.micros ∧
      turn.next.nextFlushMicros = laterBy now options.reportingPeriod.micros := by
  have hnext := create_next T carrier options processId draws now turn hcreate
  exact ⟨congrArg periodMicros hnext, congrArg nextFlushMicros hnext⟩

/-- An accepted record is taken in, and then a flush is made if it is due. -/
theorem Action.apply_of_readings (action : Action) (T : Transport σ) (r : Recorder σ)
    {clock : Readings} (hreadings : action.readings? = some clock) (hon : r.enabled = true) :
    (action.apply T r).next = ((action.taken r).flushIfDue T clock).next ∧
      (action.apply T r).trace.deliveries =
        ((action.taken r).flushIfDue T clock).trace.deliveries := by
  cases action with
  | log clock entry =>
    cases hreadings
    have hsilent := payloadText_deliveries r entry.payload
    rw [taken_log r clock entry hon]
    simp [apply, log_enabled T r clock entry hon, hsilent]
  | finishSpan clock data =>
    cases hreadings
    rw [taken_finishSpan r clock data hon]
    simp [apply, finishSpan_enabled T r clock data hon]
  | setIdentity groupName accessToken => cases hreadings
  | flush now => cases hreadings
  | shutdown now => cases hreadings
  | disable => cases hreadings

/-- The next flush is due a period after the last one that was attempted, by a call, a
record or a shutdown and whatever came of it, or after the making of the recorder. A record
that is accepted attempts a flush if its reading has come to that time, and only then. So
flushes that nobody asked for keep a period away from the attempts before them, though not
from those after them. -/
theorem flush_schedule (T : Transport σ) (carrier : σ) (options : Options)
    (processId : UInt32) (draws : List UInt64) (now : Int) (turn : Turn σ)
    (hcreate : create T carrier options processId draws now = .ok turn)
    (actions : List Action) :
    let last := (run T turn.next actions).next
    let made : Attempt := { reading := now }
    let attempts := attempted T turn.next actions
    let latest := (attempts.getLastD made).reading
    let period := options.reportingPeriod.micros
    last.nextFlushMicros = laterBy latest period ∧
    (0 ≤ latest → last.nextFlushMicros =
      min (latest + (options.reportingPeriod.totalNanos / 1000 : Nat)) Duration.lastMicros) ∧
    (∀ (action : Action) (kind : RecordKind) (record : kind.Record) (clock : Readings),
      action.record? last kind = some record → action.readings? = some clock →
      let recorded := action.taken last
      let acted := action.apply T last
      if laterBy latest period ≤ clock.due then
        action.attempted? last = some ⟨some clock.due, clock.flush⟩ ∧
        acted.next = (recorded.flush T clock.flush).next ∧
        acted.trace.deliveries = (recorded.flush T clock.flush).trace.deliveries
      else
        action.attempted? last = none ∧ acted.next = recorded ∧ acted.trace.deliveries = []) ∧
    (made :: attempts).IsChain fun a b => ∀ due ∈ b.due, laterBy a.reading period ≤ due := by
  intro last made attempts latest period
  obtain ⟨hperiod, hmade⟩ :=
    create_schedule T carrier options processId draws now turn hcreate
  have hfirst : turn.next.nextFlushMicros = laterBy made.reading turn.next.periodMicros := by
    rw [hperiod]
    exact hmade
  obtain ⟨hnext, hspaced⟩ : last.nextFlushMicros = laterBy latest period ∧
      (made :: attempts).IsChain fun a b => ∀ due ∈ b.due, laterBy a.reading period ≤ due := by
    have hrun := schedule_run T turn.next actions made hfirst
    rw [hperiod] at hrun
    exact hrun
  refine ⟨hnext, ?_, ?_, hspaced⟩
  · intro hlatest
    rw [hnext]
    exact laterBy_micros latest options.reportingPeriod hlatest
  · intro action kind record clock hrecord hreadings recorded acted
    have hon : last.enabled = true := Action.enabled_of_record hrecord
    have hattempt := action.attempt?_of_readings last hreadings
    obtain ⟨hacted, hsent⟩ := action.apply_of_readings T last hreadings hon
    have hrecorded : recorded.nextFlushMicros = laterBy latest period :=
      (action.nextFlush_taken last).trans hnext
    split
    case isTrue hdue =>
      rw [flushIfDue_of_due T (action.taken last) clock (hrecorded.trans_le hdue)] at hacted hsent
      refine ⟨?_, hacted, hsent⟩
      simp [Action.attempted?, hon, hattempt, hnext, hdue, hreadings]
    case isFalse hdue =>
      have hearly : ¬ recorded.nextFlushMicros ≤ clock.due := by
        rw [hrecorded]
        exact hdue
      rw [flushIfDue_of_not_due T (action.taken last) clock hearly] at hacted hsent
      refine ⟨?_, hacted, hsent⟩
      simp [Action.attempted?, hon, hattempt, hnext, hdue]

/-- The attempts are a flush that nobody reports, a failed one, one that a log makes and
one that breaks down in a shutdown. The next log that finds itself due is there in time,
and the one a microsecond earlier is not. -/
theorem flush_schedule_outage :
    ∃ turn, create Recording.transport Outage.carrier (Outage.options 2) 7 [] 0 = .ok turn ∧
      let last := (run Recording.transport turn.next Outage.actions).next
      let attempts := attempted Recording.transport turn.next Outage.actions
      let inTime := Action.log ⟨9, 5000008, 10⟩ { level := .info, message := "in time" }
      let early := Action.log ⟨9, 5000007, 10⟩ { level := .info, message := "early" }
      attempts = [⟨none, 2⟩, ⟨none, 9⟩, ⟨some 6000000, 4⟩, ⟨none, 8⟩] ∧
      last.nextFlushMicros = 5000008 ∧
      inTime.attempted? last = some ⟨some 5000008, 10⟩ ∧
      (inTime.apply Recording.transport last).next =
        ((inTime.taken last).flush Recording.transport 10).next ∧
      early.attempted? last = none ∧
      (early.apply Recording.transport last).next = early.taken last ∧
      (⟨none, 0⟩ :: attempts).IsChain fun a b =>
        ∀ due ∈ b.due, laterBy a.reading 5000000 ≤ due := by
  obtain ⟨turn, hcreate, hattempts, hon⟩ : ∃ turn,
      create Recording.transport Outage.carrier (Outage.options 2) 7 [] 0 = .ok turn ∧
      attempted Recording.transport turn.next Outage.actions =
        [⟨none, 2⟩, ⟨none, 9⟩, ⟨some 6000000, 4⟩, ⟨none, 8⟩] ∧
      (run Recording.transport turn.next Outage.actions).next.enabled = true :=
    ⟨_, rfl, by decide +kernel, by decide +kernel⟩
  refine ⟨turn, hcreate, ?_⟩
  intro last attempts inTime early
  obtain ⟨hnext, _, haccepted, hspaced⟩ := flush_schedule Recording.transport Outage.carrier
    (Outage.options 2) 7 [] 0 turn hcreate Outage.actions
  have hperiod : (Outage.options 2).reportingPeriod.micros = 5000000 := by decide
  rw [hperiod] at hnext haccepted hspaced
  have hdeadline : laterBy ((attempted Recording.transport turn.next Outage.actions).getLastD
      { reading := 0 }).reading 5000000 = 5000008 := by
    rw [hattempts]
    decide
  have hinTime := haccepted inTime .log _ _ (Action.record?_log last _ _ hon) rfl
  have hearly := haccepted early .log _ _ (Action.record?_log last _ _ hon) rfl
  dsimp only at hinTime hearly
  rw [hdeadline] at hnext hinTime hearly
  rw [if_pos (by decide)] at hinTime
  rw [if_neg (by decide)] at hearly
  exact ⟨hattempts, hnext, hinTime.1, hinTime.2.1, hearly.1, hearly.2.1, hspaced⟩

end Recorder

end Telemetry
