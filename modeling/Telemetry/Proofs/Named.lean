import Telemetry.Proofs.Disable
import Telemetry.Proofs.Identity

/-!
A recorder as it would be if it had been known from the start who reports. Naming it
gives it the identity and stamps what it holds, wherever a full buffer has put it. Up to
the first flush that is all that a late identity misses, so naming goes through every
action, and a flush, which stamps as well, makes both recorders the same.
-/

namespace Telemetry

namespace Buffer

variable {α β : Type}

/-- Where an item goes does not depend on what the items are. -/
theorem push_map (buffer : Buffer α) (f : α → β) (item : α) (draws : List UInt64) :
    (buffer.map f).push (f item) draws =
      ((buffer.push item draws).1.map f, (buffer.push item draws).2) := by
  unfold push map
  by_cases hmax : buffer.max = 0
  · simp [hmax]
  · by_cases hroom : buffer.items.length < buffer.max
    · simp [hmax, hroom]
    · simp [hmax, hroom]

theorem map_of_empty (buffer : Buffer α) (f : α → α) (hempty : buffer.items = []) :
    buffer.map f = buffer := by
  apply Buffer.ext
  · rfl
  · simp [hempty]

theorem map_map_self (buffer : Buffer α) (f : α → α) (hf : ∀ a, f (f a) = f a) :
    (buffer.map f).map f = buffer.map f := by
  apply Buffer.ext
  · rfl
  · simp [hf]

end Buffer

namespace Recorder

variable {σ : Type}

def named (r : Recorder σ) (identity : Identity) : Recorder σ :=
  { r with
    identity := some identity
    logs := r.logs.map (stampLog identity.guid)
    spans := r.spans.map (stampSpan identity.guid) }

def Turn.named (turn : Turn σ) (identity : Identity) : Turn σ :=
  ⟨turn.next.named identity, turn.trace⟩

theorem Turn.named_eq {turn : Turn σ} {identity : Identity}
    (hnext : turn.next.named identity = turn.next) : turn.named identity = turn := by
  unfold Turn.named
  rw [hnext]

/-- The recorder is not known as anybody else. -/
def Expects (r : Recorder σ) (identity : Identity) : Prop :=
  ∀ known, r.identity = some known → known = identity

section

variable {r : Recorder σ} {identity : Identity}

theorem named_of_empty (hknown : r.identity = some identity) (hlogs : r.logs.items = [])
    (hspans : r.spans.items = []) : r.named identity = r := by
  unfold named
  rw [r.logs.map_of_empty _ hlogs, r.spans.map_of_empty _ hspans, ← hknown]

theorem named_named (r : Recorder σ) (identity : Identity) :
    (r.named identity).named identity = r.named identity := by
  have hlogs : (r.named identity).logs.map (stampLog identity.guid) = (r.named identity).logs :=
    r.logs.map_map_self _ (RecordKind.log.stamp_stamp identity.guid)
  have hspans : (r.named identity).spans.map (stampSpan identity.guid) = (r.named identity).spans :=
    r.spans.map_map_self _ (RecordKind.span.stamp_stamp identity.guid)
  rw [named, hlogs, hspans]
  rfl

/-! ## Recording -/

theorem guid_of_expects (hexpects : r.Expects identity) : r.guid = "" ∨ r.guid = identity.guid := by
  unfold guid
  cases hidentity : r.identity with
  | none => exact Or.inl rfl
  | some known => exact Or.inr (congrArg Identity.guid (hexpects known hidentity))

theorem addLog_named (r : Recorder σ) (identity : Identity) (record : LogRecord) :
    (r.named identity).addLog (stampLog identity.guid record) =
      (r.addLog record).named identity := by
  have hpush : (r.named identity).logs.push (stampLog identity.guid record)
      (r.named identity).draws = ((r.logs.push record r.draws).1.map (stampLog identity.guid),
        (r.logs.push record r.draws).2) :=
    r.logs.push_map (stampLog identity.guid) record r.draws
  simp only [addLog, hpush]
  rfl

theorem addSpan_named (r : Recorder σ) (identity : Identity) (record : SpanRecord) :
    (r.named identity).addSpan (stampSpan identity.guid record) =
      (r.addSpan record).named identity := by
  have hpush : (r.named identity).spans.push (stampSpan identity.guid record)
      (r.named identity).draws = ((r.spans.push record r.draws).1.map (stampSpan identity.guid),
        (r.spans.push record r.draws).2) :=
    r.spans.push_map (stampSpan identity.guid) record r.draws
  simp only [addSpan, hpush]
  rfl

/-! ## Flushing -/

/-- A delivery stamps what it brings back, and else it leaves nothing to stamp. -/
theorem named_after (r : Recorder σ) (delivery : Delivery) (carrier : σ)
    (hknown : r.identity = some identity) :
    (r.after delivery carrier).named identity = r.after delivery carrier := by
  have hguid := guid_of_identity hknown
  unfold after
  split
  · exact named_of_empty hknown rfl rfl
  · have hreturned : { r with
        logs := r.logs.map (stampLog r.guid)
        spans := r.spans.map (stampSpan r.guid)
        carrier } = { r.named identity with carrier } := by
      rw [named, hguid, ← hknown]
    rw [hreturned]
    exact congrArg (fun named => { named with carrier }) (r.named_named identity)

theorem deliver_named (T : Transport σ) (r : Recorder σ) (now : Int)
    (hknown : r.identity = some identity) :
    deliver T (r.named identity) identity now = deliver T r identity now := by
  have hlogs : (r.named identity).logs.items.map (stampLog identity.guid) =
      r.logs.items.map (stampLog identity.guid) :=
    congrArg Buffer.items (congrArg Recorder.logs (r.named_named identity))
  have hspans : (r.named identity).spans.items.map (stampSpan identity.guid) =
      r.spans.items.map (stampSpan identity.guid) :=
    congrArg Buffer.items (congrArg Recorder.spans (r.named_named identity))
  have hbatch : (r.named identity).batch identity now = r.batch identity now := by
    simp only [batch, hlogs, hspans]
    rfl
  have hemptied : (r.named identity).emptied = r.emptied := by
    simp only [emptied, named, ← hknown]
    rfl
  unfold deliver
  rw [hbatch, hemptied]
  rfl

theorem ready_named (hknown : r.identity = some identity) :
    (r.named identity).Ready identity ↔ r.Ready identity := by
  have hholds : ((r.named identity).logs.items = [] ∧ (r.named identity).spans.items = []) ↔
      (r.logs.items = [] ∧ r.spans.items = []) := by
    simp [named]
  exact ⟨fun hready => ⟨hready.enabled, hknown, fun hempty => hready.holds (hholds.mpr hempty)⟩,
    fun hready => ⟨hready.enabled, rfl, fun hempty => hready.holds (hholds.mp hempty)⟩⟩

/-- Where there is nothing to send there is nothing to stamp. -/
theorem named_of_idle (hknown : r.identity = some identity) (hcleared : r.Cleared)
    (hidle : ¬ r.Ready identity) : r.named identity = r := by
  have hempty : r.logs.items = [] ∧ r.spans.items = [] := by
    cases henabled : r.enabled with
    | false => exact hcleared henabled
    | true => exact Classical.byContradiction fun hholds => hidle ⟨henabled, hknown, hholds⟩
  exact named_of_empty hknown hempty.1 hempty.2

/-- After an attempt at a flush a late identity has left no trace, and before it makes
no difference to it. -/
theorem flush_named (T : Transport σ) (r : Recorder σ) (now : Int)
    (hknown : r.identity = some identity) (hcleared : r.Cleared) :
    (r.named identity).flush T now = r.flush T now ∧
      (r.flush T now).named identity = r.flush T now := by
  by_cases hready : r.Ready identity
  · obtain ⟨carrier, hnext⟩ := deliver_next T (r.postponed now) identity now hready.identified
    rw [flush_eq_deliver T r identity now hready,
      flush_eq_deliver T (r.named identity) identity now ((ready_named hknown).mpr hready)]
    have hsame : (deliver T (r.postponed now) identity now).next.named identity =
        (deliver T (r.postponed now) identity now).next := by
      rw [hnext]
      exact named_after (r.postponed now) _ carrier hknown
    exact ⟨deliver_named T (r.postponed now) now hknown, Turn.named_eq hsame⟩
  · have hnamed := named_of_idle hknown hcleared hready
    have hidle : ∀ known, ¬ r.Ready known := by
      intro known hother
      have hsame := Option.some.inj (hother.identified.symm.trans hknown)
      exact hready (hsame ▸ hother)
    rw [hnamed, flush_idle T r now hidle]
    refine ⟨rfl, Turn.named_eq ?_⟩
    split
    · exact congrArg (fun named => named.postponed now) hnamed
    · exact hnamed

theorem flushIfDue_named (T : Transport σ) (r : Recorder σ) (clock : Readings)
    (hcleared : r.Cleared)
    (hcalm : r.identity = some identity ∨ ¬ r.nextFlushMicros ≤ clock.due) :
    (r.named identity).flushIfDue T clock = (r.flushIfDue T clock).named identity := by
  by_cases hdue : r.nextFlushMicros ≤ clock.due
  · have hknown := hcalm.resolve_right (not_not_intro hdue)
    obtain ⟨hflush, hnamed⟩ := flush_named T r clock.flush hknown hcleared
    rw [flushIfDue_of_due T r clock hdue, flushIfDue_of_due T (r.named identity) clock hdue,
      hflush, hnamed]
  · rw [flushIfDue_of_not_due T r clock hdue,
      flushIfDue_of_not_due T (r.named identity) clock hdue]
    rfl

/-! ## Actions -/

/-- An enabled recorder that attempts no flush is not due for one. -/
theorem not_due_of_quiet {clock : Readings} (henabled : r.enabled = true)
    (hquiet : (if r.enabled ∧ r.nextFlushMicros ≤ clock.due then some clock.flush else none) =
      none) : ¬ r.nextFlushMicros ≤ clock.due := by
  intro hdue
  rw [if_pos ⟨henabled, hdue⟩] at hquiet
  cases hquiet

theorem log_named (T : Transport σ) (r : Recorder σ) (clock : Readings) (entry : Entry)
    (hexpects : r.Expects identity)
    (hcalm : r.identity = some identity ∨ (Action.log clock entry).attempt? r = none) :
    (r.named identity).log T clock entry = (r.log T clock entry).named identity := by
  cases henabled : r.enabled with
  | true =>
    let record := r.logRecord entry (r.payloadText entry.payload).1 clock.stamp
    have hrecord : (r.named identity).logRecord entry (r.payloadText entry.payload).1 clock.stamp =
        stampLog identity.guid record :=
      (stampLog_guid identity.guid record (guid_of_expects hexpects)).symm
    have hflush := flushIfDue_named T (r.addLog record) clock (cleared_of_enabled henabled)
      (hcalm.imp_right (not_due_of_quiet henabled))
    rw [← addLog_named, ← hrecord] at hflush
    have hlog := log_enabled T (r.named identity) clock entry henabled
    rw [hlog, log_enabled T r clock entry henabled]
    let remarked (flushed : Turn σ) : Turn σ :=
      ⟨flushed.next, (r.payloadText entry.payload).2 ++ flushed.trace⟩
    exact congrArg remarked hflush
  | false =>
    have hlog := log_disabled T (r.named identity) clock entry henabled
    rw [hlog, log_disabled T r clock entry henabled]
    rfl

/-- What a span keeps of being finished does not depend on who reports. -/
theorem finishSpan_data (T : Transport σ) (r : Recorder σ) (clock : Readings) (data : SpanData) :
    ((r.named identity).finishSpan T clock data).1 = (r.finishSpan T clock data).1 := by
  cases henabled : r.enabled with
  | true =>
    have hfinish := finishSpan_enabled T (r.named identity) clock data henabled
    rw [hfinish, finishSpan_enabled T r clock data henabled]
  | false =>
    have hfinish := finishSpan_disabled T (r.named identity) clock data henabled
    rw [hfinish, finishSpan_disabled T r clock data henabled]

theorem finishSpan_named (T : Transport σ) (r : Recorder σ) (clock : Readings) (data : SpanData)
    (hexpects : r.Expects identity)
    (hcalm : r.identity = some identity ∨ (Action.finishSpan clock data).attempt? r = none) :
    ((r.named identity).finishSpan T clock data).2 =
      (r.finishSpan T clock data).2.named identity := by
  cases henabled : r.enabled with
  | true =>
    let finished := { data with endMicros := max clock.stamp data.startMicros }
    have hrecord : finished.toRecord (r.named identity).guid =
        stampSpan identity.guid (finished.toRecord r.guid) :=
      (stampSpan_guid identity.guid (finished.toRecord r.guid) (guid_of_expects hexpects)).symm
    have hflush := flushIfDue_named T (r.addSpan (finished.toRecord r.guid)) clock
      (cleared_of_enabled henabled) (hcalm.imp_right (not_due_of_quiet henabled))
    rw [← addSpan_named, ← hrecord] at hflush
    have hfinish := finishSpan_enabled T (r.named identity) clock data henabled
    rw [hfinish, finishSpan_enabled T r clock data henabled]
    exact hflush
  | false =>
    have hfinish := finishSpan_disabled T (r.named identity) clock data henabled
    rw [hfinish, finishSpan_disabled T r clock data henabled]
    rfl

theorem shutdown_named (T : Transport σ) (r : Recorder σ) (now : Int) (hcleared : r.Cleared)
    (hcalm : r.identity = some identity ∨ (Action.shutdown now).attempt? r = none) :
    (r.named identity).shutdown T now = (r.shutdown T now).named identity := by
  cases hopen : r.shutDown with
  | true =>
    have hagain : (r.named identity).shutDown = true := hopen
    rw [shutdown_again T r now hopen, shutdown_again T (r.named identity) now hagain]
    rfl
  | false =>
    have hopen' : (r.named identity).shutDown = false := hopen
    have hknown : r.identity = some identity := hcalm.resolve_right (by simp [Action.attempt?, hopen])
    obtain ⟨hflush, hnamed⟩ := flush_named T { r with shutDown := true } now hknown hcleared
    have hflush' : flush T { r.named identity with shutDown := true } now =
        flush T { r with shutDown := true } now := hflush
    have hnext : (flush T { r with shutDown := true } now).next.named identity =
        (flush T { r with shutDown := true } now).next := congrArg Turn.next hnamed
    rw [shutdown_first T r now hopen, shutdown_first T (r.named identity) now hopen', hflush']
    refine (Turn.named_eq ?_).symm
    dsimp only
    split
    · exact hnext
    · exact congrArg (fun next : Recorder σ => { next with carrier := T.close next.carrier }) hnext

theorem setIdentity_known (T : Transport σ) (r : Recorder σ) (groupName accessToken : String)
    (hknown : r.identity = some identity) :
    (Action.setIdentity groupName accessToken).apply T r = ⟨r, []⟩ := by
  simp only [Action.apply, setIdentity, hknown]
  cases Identity.validate groupName accessToken with
  | error refusal => rfl
  | ok _ =>
    cases identity.checkConsistent groupName accessToken with
    | error refusal => rfl
    | ok _ => rfl

theorem setIdentity_named (T : Transport σ) (r : Recorder σ) (groupName accessToken : String) :
    ((Action.setIdentity groupName accessToken).apply T r).next.named identity =
      r.named identity := by
  simp only [Action.apply]
  cases hset : r.setIdentity groupName accessToken with
  | error refusal => rfl
  | ok turn =>
    rcases (setIdentity_cases r groupName accessToken turn hset).2 with
      ⟨_, _, hnext⟩ | ⟨_, _, _, hnext⟩
    · rw [hnext]
    · rw [hnext]
      rfl

theorem Action.attempt?_named (action : Action) (r : Recorder σ) :
    action.attempt? (r.named identity) = action.attempt? r := by
  cases action with
  | _ => rfl

/-- An action does not tell whether the recorder was named before it, unless it flushes
while nobody is known. A call that names the recorder may remark on it. -/
theorem Action.apply_named (action : Action) (T : Transport σ) (r : Recorder σ)
    (hexpects : r.Expects identity) (hcleared : r.Cleared)
    (hcalm : r.identity = some identity ∨ action.attempt? r = none) :
    (action.apply T (r.named identity)).next = (action.apply T r).next.named identity ∧
      (r.identity = some identity →
        (action.apply T (r.named identity)).trace = (action.apply T r).trace) := by
  have both {a b : Turn σ} (hturn : a = b.named identity) : a.next = b.next.named identity ∧
      (r.identity = some identity → a.trace = b.trace) := by
    subst hturn
    exact ⟨rfl, fun _ => rfl⟩
  cases action with
  | log clock entry => exact both (log_named T r clock entry hexpects hcalm)
  | finishSpan clock data => exact both (finishSpan_named T r clock data hexpects hcalm)
  | setIdentity groupName accessToken =>
    rw [setIdentity_known T (r.named identity) groupName accessToken rfl, setIdentity_named]
    refine ⟨rfl, fun hknown => ?_⟩
    rw [setIdentity_known T r groupName accessToken hknown]
  | flush now =>
    have hknown := hcalm.resolve_right (Option.some_ne_none now)
    obtain ⟨hflush, hnamed⟩ := flush_named T r now hknown hcleared
    exact both (hflush.trans hnamed.symm)
  | shutdown now => exact both (shutdown_named T r now hcleared hcalm)
  | disable => exact both rfl

/-- After an attempt at a flush naming has nothing left to do. -/
theorem Action.named_of_attempt (action : Action) (T : Transport σ) (r : Recorder σ)
    (hknown : r.identity = some identity) (hcleared : r.Cleared)
    (hattempt : action.attempt? r ≠ none) :
    (action.apply T r).next.named identity = (action.apply T r).next := by
  rcases action.apply_cases T r with ⟨hquiet, _⟩ | ⟨now, carrier, _, _, hnext⟩
  · exact absurd hquiet hattempt
  · have hidentity : (action.taken r).identity = some identity := by
      rw [action.identity_taken r, hknown]
      rfl
    have hnamed := congrArg Turn.next
      (flush_named T (action.taken r) now hidentity (action.cleared_taken r hcleared)).2
    rw [hnext]
    exact congrArg (fun next : Recorder σ => { next with carrier }) hnamed

end

/-! ## Runs -/

/-- The readings of the flushes that a run attempts. -/
def attempts (T : Transport σ) (r : Recorder σ) : List Action → List Int
  | [] => []
  | action :: rest => (action.attempt? r).toList ++ attempts T (action.apply T r).next rest

theorem attempts_cons_eq_nil (T : Transport σ) (r : Recorder σ) (action : Action)
    (rest : List Action) : attempts T r (action :: rest) = [] ↔
      action.attempt? r = none ∧ attempts T (action.apply T r).next rest = [] := by
  simp only [attempts, List.append_eq_nil_iff, Option.toList_eq_nil_iff]

theorem attempts_append (T : Transport σ) (r : Recorder σ) (first later : List Action) :
    attempts T r (first ++ later) =
      attempts T r first ++ attempts T (run T r first).next later := by
  induction first generalizing r with
  | nil => rfl
  | cons action rest ih =>
    simp only [List.cons_append, attempts, run, List.append_assoc]
    rw [ih]

variable {identity : Identity}

theorem expects_of_run (T : Transport σ) (r : Recorder σ) (actions : List Action)
    (hexpects : (run T r actions).next.Expects identity) : r.Expects identity :=
  fun known hknown => hexpects known (identity_run T r actions known hknown)

/-- A run goes the same way whether the recorder was named before it or not, as long as
no flush is attempted before somebody is known. -/
theorem run_named (T : Transport σ) (r : Recorder σ) (actions : List Action)
    (hexpects : (run T r actions).next.Expects identity) (hcleared : r.Cleared)
    (hcalm : r.identity = some identity ∨ attempts T r actions = []) :
    (run T (r.named identity) actions).next = (run T r actions).next.named identity ∧
      attempts T (r.named identity) actions = attempts T r actions ∧
      (r.identity = some identity →
        (run T (r.named identity) actions).trace = (run T r actions).trace) := by
  induction actions generalizing r with
  | nil => exact ⟨rfl, rfl, fun _ => rfl⟩
  | cons action rest ih =>
    rw [attempts_cons_eq_nil] at hcalm
    have hfirst : r.identity = some identity ∨ action.attempt? r = none := hcalm.imp_right And.left
    have hlater : (action.apply T r).next.identity = some identity ∨
        attempts T (action.apply T r).next rest = [] :=
      hcalm.imp (identity_run T r [action] identity) And.right
    obtain ⟨hnext, htrace⟩ :=
      action.apply_named T r (expects_of_run T r (action :: rest) hexpects) hcleared hfirst
    obtain ⟨hlast, hattempts, hrest⟩ :=
      ih (action.apply T r).next hexpects (action.cleared_apply T r hcleared) hlater
    simp only [run, attempts, action.attempt?_named r, hnext]
    refine ⟨hlast, by rw [hattempts], fun hknown => ?_⟩
    rw [htrace hknown, hrest (identity_run T r [action] identity hknown)]

/-- A run that attempts a flush leaves nothing to name, however long ago it was. -/
theorem named_of_attempts (T : Transport σ) (r : Recorder σ) (actions : List Action)
    (hknown : r.identity = some identity) (hcleared : r.Cleared)
    (hattempts : attempts T r actions ≠ []) :
    (run T r actions).next.named identity = (run T r actions).next := by
  induction actions generalizing r with
  | nil => exact absurd rfl hattempts
  | cons action rest ih =>
    have hlater := identity_run T r [action] identity hknown
    have hnext := action.cleared_apply T r hcleared
    by_cases hquiet : action.attempt? r = none
    · apply ih (action.apply T r).next hlater hnext
      exact fun hnone => hattempts ((attempts_cons_eq_nil T r action rest).mpr ⟨hquiet, hnone⟩)
    · have hnamed := action.named_of_attempt T r hknown hcleared hquiet
      have hexpects : (run T (action.apply T r).next rest).next.Expects identity := by
        intro known hlast
        have hsame := identity_run T (action.apply T r).next rest identity hlater
        exact Option.some.inj (hlast.symm.trans hsame)
      have hrest := (run_named T (action.apply T r).next rest hexpects hnext (Or.inl hlater)).1
      rw [hnamed] at hrest
      exact hrest.symm

end Recorder

end Telemetry
