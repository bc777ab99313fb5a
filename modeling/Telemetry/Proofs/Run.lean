import Telemetry.Delivery.Recording
import Telemetry.Proofs.Setup

/-!
Runs of a recorder that is shared. Whoever uses it takes its lock for one action
at a time, so what any number of threads do together is one list of actions, in
the order in which they got the lock. Dropping an unfinished span takes the lock
twice, for a log and for the span, and actions of other threads may come between.

Looking at a recorder and starting a span change nothing and are left out. A
second shutdown sees the flag before it asks for the lock and does nothing, so the
flag may as well be raised under the lock by the first one.
-/

namespace Telemetry

namespace Recorder

/-- What is done in one hold of the lock, with the readings of the clock. -/
inductive Action
  | log (clock : Readings) (entry : Entry)
  | finishSpan (clock : Readings) (data : SpanData)
  | setIdentity (groupName accessToken : String)
  | flush (now : Int)
  | shutdown (now : Int)
  | disable

variable {σ : Type}

namespace Action

def apply (action : Action) (T : Transport σ) (r : Recorder σ) : Turn σ :=
  match action with
  | .log clock entry => r.log T clock entry
  | .finishSpan clock data => (r.finishSpan T clock data).2
  | .setIdentity groupName accessToken =>
    match r.setIdentity groupName accessToken with
    | .ok turn => turn
    | .error _ => ⟨r, []⟩
  | .flush now => r.flush T now
  | .shutdown now => r.shutdown T now
  | .disable => ⟨r.disable, []⟩

/-- The record of this kind that an action hands to an enabled recorder. -/
def record? (action : Action) (r : Recorder σ) (kind : RecordKind) : Option kind.Record :=
  match action, kind with
  | .log clock entry, .log =>
    if r.enabled then some (r.logRecord entry (r.payloadText entry.payload).1 clock.stamp) else none
  | .finishSpan clock data, .span =>
    if r.enabled then
      some ({ data with endMicros := max clock.stamp data.startMicros }.toRecord r.guid)
    else none
  | _, _ => none

/-- Whether the push of that record reports that one was given up. -/
def drops (action : Action) (r : Recorder σ) (kind : RecordKind) : Bool :=
  match action.record? r kind with
  | some record => ((kind.held r).push record r.draws).2.1
  | none => false

/-- The recorder when the action has done everything but flush. -/
def taken (action : Action) (r : Recorder σ) : Recorder σ :=
  match action with
  | .log _ _ => (action.record? r .log).elim r r.addLog
  | .finishSpan _ _ => (action.record? r .span).elim r r.addSpan
  | .setIdentity groupName accessToken =>
    match r.setIdentity groupName accessToken with
    | .ok turn => turn.next
    | .error _ => r
  | .flush _ => r
  | .shutdown _ => { r with shutDown := true }
  | .disable => r.disable

/-- The reading with which the action attempts a flush, if it attempts one. -/
def attempt? (action : Action) (r : Recorder σ) : Option Int :=
  match action with
  | .log clock _ | .finishSpan clock _ =>
    if r.enabled ∧ r.nextFlushMicros ≤ clock.due then some clock.flush else none
  | .flush now => some now
  | .shutdown now => if r.shutDown then none else some now
  | .setIdentity _ _ | .disable => none

end Action

/-- The actions one after the other, whichever threads they belong to. -/
def run (T : Transport σ) (r : Recorder σ) : List Action → Turn σ
  | [] => ⟨r, []⟩
  | action :: rest =>
    let turn := action.apply T r
    let later := run T turn.next rest
    ⟨later.next, turn.trace ++ later.trace⟩

end Recorder

namespace RecordKind

variable {σ : Type}

/-- The records of this kind that were accepted in a run, in the order of the
calls. -/
def accepted (kind : RecordKind) (T : Transport σ) (r : Recorder σ) :
    List Recorder.Action → List kind.Record
  | [] => []
  | action :: rest => (action.record? r kind).toList ++ kind.accepted T (action.apply T r).next rest

/-- How many pushes of a run reported that a record was given up. -/
def overflows (kind : RecordKind) (T : Transport σ) (r : Recorder σ) :
    List Recorder.Action → Nat
  | [] => 0
  | action :: rest => (action.drops r kind).toNat + kind.overflows T (action.apply T r).next rest

end RecordKind

namespace Recorder

variable {σ : Type}

theorem payloadText_deliveries (r : Recorder σ) (payload : Option Json) :
    (r.payloadText payload).2.deliveries = [] := by
  unfold payloadText
  cases payload with
  | none => rfl
  | some value =>
    dsimp only
    split
    · rfl
    · rfl

/-- Whoever comes second finds that everything is done. -/
theorem shutdown_again (T : Transport σ) (r : Recorder σ) (now : Int)
    (hshut : r.shutDown = true) : r.shutdown T now = ⟨r, []⟩ := by
  unfold shutdown
  rw [hshut]
  rfl

/-- The first shutdown flushes and then closes what the flush has left, unless the
transport broke down. -/
theorem shutdown_first (T : Transport σ) (r : Recorder σ) (now : Int)
    (hopen : r.shutDown = false) :
    r.shutdown T now =
      let flushed := flush T { r with shutDown := true } now
      if flushed.trace.panicked then flushed
      else ⟨{ flushed.next with carrier := T.close flushed.next.carrier }, flushed.trace⟩ := by
  unfold shutdown
  rw [hopen]
  rfl

/-- Closing the transport after the last flush touches nothing but the transport. -/
theorem shutdown_eq (T : Transport σ) (r : Recorder σ) (now : Int) (hopen : r.shutDown = false) :
    ∃ carrier, r.shutdown T now =
      ⟨{ (flush T { r with shutDown := true } now).next with carrier },
        (flush T { r with shutDown := true } now).trace⟩ := by
  let flushed := flush T { r with shutDown := true } now
  rw [shutdown_first T r now hopen]
  by_cases hpanicked : flushed.trace.panicked
  · exact ⟨flushed.next.carrier, by simp [hpanicked, flushed]⟩
  · exact ⟨T.close flushed.next.carrier, by simp [hpanicked, flushed]⟩

theorem flushIfDue_of_due (T : Transport σ) (r : Recorder σ) (clock : Readings)
    (hdue : r.nextFlushMicros ≤ clock.due) : r.flushIfDue T clock = r.flush T clock.flush := by
  unfold flushIfDue
  rw [if_pos hdue]

theorem flushIfDue_of_not_due (T : Transport σ) (r : Recorder σ) (clock : Readings)
    (hdue : ¬ r.nextFlushMicros ≤ clock.due) : r.flushIfDue T clock = ⟨r, []⟩ := by
  unfold flushIfDue
  rw [if_neg hdue]

/-! ## Adding a record -/

theorem log_enabled (T : Transport σ) (r : Recorder σ) (clock : Readings) (entry : Entry)
    (henabled : r.enabled = true) :
    r.log T clock entry =
      let payload := r.payloadText entry.payload
      let flushed := (r.addLog (r.logRecord entry payload.1 clock.stamp)).flushIfDue T clock
      ⟨flushed.next, payload.2 ++ flushed.trace⟩ :=
  if_pos henabled

theorem log_disabled (T : Transport σ) (r : Recorder σ) (clock : Readings) (entry : Entry)
    (hdisabled : r.enabled = false) :
    r.log T clock entry = ⟨r, (r.payloadText entry.payload).2⟩ := by
  unfold log
  rw [hdisabled]
  rfl

theorem finishSpan_enabled (T : Transport σ) (r : Recorder σ) (clock : Readings)
    (data : SpanData) (henabled : r.enabled = true) :
    r.finishSpan T clock data =
      let data := { data with endMicros := max clock.stamp data.startMicros }
      (data, (r.addSpan (data.toRecord r.guid)).flushIfDue T clock) :=
  if_pos henabled

/-- A span that is finished too late stays as it is. -/
theorem finishSpan_disabled (T : Transport σ) (r : Recorder σ) (clock : Readings)
    (data : SpanData) (hdisabled : r.enabled = false) :
    r.finishSpan T clock data = (data, ⟨r, []⟩) := by
  unfold finishSpan
  rw [hdisabled]
  rfl

namespace Action

theorem record?_log (r : Recorder σ) (clock : Readings) (entry : Entry)
    (henabled : r.enabled = true) :
    (log clock entry).record? r .log =
      some (r.logRecord entry (r.payloadText entry.payload).1 clock.stamp) :=
  if_pos henabled

theorem record?_finishSpan (r : Recorder σ) (clock : Readings) (data : SpanData)
    (henabled : r.enabled = true) :
    (finishSpan clock data).record? r .span =
      some ({ data with endMicros := max clock.stamp data.startMicros }.toRecord r.guid) :=
  if_pos henabled

theorem record?_of_disabled (action : Action) (r : Recorder σ) (kind : RecordKind)
    (hdisabled : r.enabled = false) : action.record? r kind = none := by
  cases action with
  | log clock entry =>
    cases kind with
    | log => exact if_neg (by simp [hdisabled])
    | span => rfl
  | finishSpan clock data =>
    cases kind with
    | log => rfl
    | span => exact if_neg (by simp [hdisabled])
  | setIdentity groupName accessToken => rfl
  | flush now => rfl
  | shutdown now => rfl
  | disable => rfl

theorem enabled_of_record {action : Action} {r : Recorder σ} {kind : RecordKind}
    {record : kind.Record} (hrecord : action.record? r kind = some record) :
    r.enabled = true := by
  cases henabled : r.enabled with
  | true => rfl
  | false =>
    rw [action.record?_of_disabled r kind henabled] at hrecord
    cases hrecord

theorem taken_log (r : Recorder σ) (clock : Readings) (entry : Entry)
    (henabled : r.enabled = true) :
    (log clock entry).taken r =
      r.addLog (r.logRecord entry (r.payloadText entry.payload).1 clock.stamp) := by
  rw [taken, record?_log r clock entry henabled]
  rfl

theorem taken_finishSpan (r : Recorder σ) (clock : Readings) (data : SpanData)
    (henabled : r.enabled = true) :
    (finishSpan clock data).taken r =
      r.addSpan ({ data with endMicros := max clock.stamp data.startMicros }.toRecord r.guid) := by
  rw [taken, record?_finishSpan r clock data henabled]
  rfl

end Action

/-- An action takes something in and then flushes or not. Of what comes after the
flush only the state of the transport is touched. -/
theorem Action.apply_cases (action : Action) (T : Transport σ) (r : Recorder σ) :
    (action.attempt? r = none ∧ (action.apply T r).trace.deliveries = [] ∧
      (action.apply T r).next = action.taken r) ∨
    ∃ now carrier, action.attempt? r = some now ∧
      (action.apply T r).trace.deliveries =
        ((action.taken r).flush T now).trace.deliveries ∧
      (action.apply T r).next = { ((action.taken r).flush T now).next with carrier } := by
  cases action with
  | log clock entry =>
    have hsilent := payloadText_deliveries r entry.payload
    cases henabled : r.enabled with
    | true =>
      have htaken := taken_log r clock entry henabled
      have happly := log_enabled T r clock entry henabled
      simp only [apply, htaken, happly]
      by_cases hdue : r.nextFlushMicros ≤ clock.due
      · rw [flushIfDue_of_due T (r.addLog _) clock hdue]
        refine Or.inr ⟨clock.flush, _, ?_, ?_, rfl⟩
        · simp [attempt?, henabled, hdue]
        · simp [hsilent]
      · rw [flushIfDue_of_not_due T (r.addLog _) clock hdue]
        refine Or.inl ⟨?_, ?_, rfl⟩
        · simp [attempt?, hdue]
        · simp [hsilent]
    | false =>
      have hrecord := (log clock entry).record?_of_disabled r .log henabled
      have happly := log_disabled T r clock entry henabled
      simp only [apply, taken, hrecord, happly]
      refine Or.inl ⟨?_, hsilent, rfl⟩
      simp [attempt?, henabled]
  | finishSpan clock data =>
    cases henabled : r.enabled with
    | true =>
      have htaken := taken_finishSpan r clock data henabled
      have happly := finishSpan_enabled T r clock data henabled
      simp only [apply, htaken, happly]
      by_cases hdue : r.nextFlushMicros ≤ clock.due
      · rw [flushIfDue_of_due T (r.addSpan _) clock hdue]
        refine Or.inr ⟨clock.flush, _, ?_, rfl, rfl⟩
        simp [attempt?, henabled, hdue]
      · rw [flushIfDue_of_not_due T (r.addSpan _) clock hdue]
        refine Or.inl ⟨?_, rfl, rfl⟩
        simp [attempt?, hdue]
    | false =>
      have hrecord := (finishSpan clock data).record?_of_disabled r .span henabled
      have happly := finishSpan_disabled T r clock data henabled
      simp only [apply, taken, hrecord, happly]
      refine Or.inl ⟨?_, rfl, rfl⟩
      simp [attempt?, henabled]
  | setIdentity groupName accessToken =>
    cases hset : r.setIdentity groupName accessToken with
    | ok turn =>
      refine Or.inl ⟨rfl, ?_, ?_⟩
      · simp only [apply, hset]
        exact (setIdentity_cases r groupName accessToken turn hset).1
      · simp only [apply, taken, hset]
    | error refusal =>
      refine Or.inl ⟨rfl, ?_, ?_⟩
      · simp only [apply, hset, Trace.deliveries_nil]
      · simp only [apply, taken, hset]
  | flush now => exact Or.inr ⟨now, (r.flush T now).next.carrier, rfl, rfl, rfl⟩
  | shutdown now =>
    cases hopen : r.shutDown with
    | true =>
      have hagain := shutdown_again T r now hopen
      refine Or.inl ⟨?_, ?_, ?_⟩
      · simp [attempt?, hopen]
      · simp [apply, hagain]
      · simp [apply, hagain, taken, ← hopen]
    | false =>
      obtain ⟨carrier, hshutdown⟩ := shutdown_eq T r now hopen
      refine Or.inr ⟨now, carrier, ?_, ?_, ?_⟩
      · simp [attempt?, hopen]
      · simp only [apply, hshutdown, taken]
      · simp only [apply, hshutdown, taken]
  | disable => exact Or.inl ⟨rfl, rfl, rfl⟩

/-- Everything that an action can come to. It is quiet, and then only the time of
the next flush and the transport differ from what it took in, or it attempts a flush
and makes one delivery of all that is held by then. -/
theorem Action.apply_attempt (action : Action) (T : Transport σ) (r : Recorder σ) :
    ((action.apply T r).trace.deliveries = [] ∧ ∃ due carrier,
      (action.apply T r).next =
        { action.taken r with nextFlushMicros := due, carrier }) ∨
    ∃ identity now carrier, action.attempt? r = some now ∧ (action.taken r).Ready identity ∧
      (action.apply T r).trace.deliveries = [(action.taken r).delivery T identity now] ∧
      (action.apply T r).next =
        ((action.taken r).postponed now).after ((action.taken r).delivery T identity now)
          carrier := by
  rcases apply_cases action T r with ⟨_, hsilent, hnext⟩ | ⟨now, carrier, hattempt, htrace, hnext⟩
  · exact Or.inl ⟨hsilent, (action.taken r).nextFlushMicros, (action.taken r).carrier, hnext⟩
  · rcases flush_cases T (action.taken r) now with
      ⟨_, hflush⟩ | ⟨identity, left, hready, hsent, hafter⟩
    · rw [hflush] at htrace hnext
      by_cases henabled : (action.taken r).enabled = true
      · rw [if_pos henabled] at hnext
        exact Or.inl ⟨htrace, _, carrier, hnext⟩
      · rw [if_neg henabled] at hnext
        exact Or.inl ⟨htrace, _, carrier, hnext⟩
    · rw [hafter] at hnext
      refine Or.inr ⟨identity, now, carrier, hattempt, hready, htrace.trans hsent,
        hnext.trans ?_⟩
      unfold after
      split
      · rfl
      · rfl

/-- The same for laws that do not ask when the delivery is made. -/
theorem Action.apply_outcome (action : Action) (T : Transport σ) (r : Recorder σ) :
    ((action.apply T r).trace.deliveries = [] ∧ ∃ due carrier,
      (action.apply T r).next =
        { action.taken r with nextFlushMicros := due, carrier }) ∨
    ∃ identity now carrier, (action.taken r).Ready identity ∧
      (action.apply T r).trace.deliveries = [(action.taken r).delivery T identity now] ∧
      (action.apply T r).next =
        ((action.taken r).postponed now).after ((action.taken r).delivery T identity now)
          carrier := by
  rcases action.apply_attempt T r with hquiet | ⟨identity, now, carrier, _, hdelivered⟩
  · exact Or.inl hquiet
  · exact Or.inr ⟨identity, now, carrier, hdelivered⟩

end Recorder

/-! ## A run to try laws on -/

namespace Recorder.Outage

/-- Few places for logs, none for spans, and nobody to report for as yet. -/
def options (places : Nat) : Options where
  maxLogRecords := places
  maxSpanRecords := 0
  delivery := .retainUntilAcknowledged

/-- The collector is away, then it answers, and then the transport breaks down. -/
def carrier : Recording where
  script := [.settled (.failed (.status 503)), .settled (.delivered ⟨[], []⟩), .panicked]

/-- The second report goes out with a log, at a reading before that of the first one,
and the last log is made after the shutdown. -/
def actions : List Action :=
  [.log (.all 1) { level := .info, message := "one" },
    .flush 2,
    .log (.all 3) { level := .warn, message := "two" },
    .setIdentity "group" "token",
    .flush 9,
    .finishSpan (.all 5) { guid := "span", operation := "work", startMicros := 4 },
    .log ⟨5, 6000000, 4⟩ { level := .info, message := "three" },
    .log (.all 6) { level := .error, message := "four" },
    .shutdown 8,
    .log (.all 9) { level := .info, message := "five" }]

end Recorder.Outage

end Telemetry
