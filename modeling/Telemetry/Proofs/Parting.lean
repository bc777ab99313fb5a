import Telemetry.Proofs.SpanRecord

/-!
Letting a handle go. A span that counts as finished leaves nothing behind. One that does not
is warned of and then submitted, and the two records have their fates apart: other threads,
a flush that fails and a full buffer may come between them. A span counts as finished if its
end is not zero, so it matters whether it was started or finished at a time after zero.
-/

namespace Telemetry

/-- Nothing is accepted once nothing is recorded. -/
theorem RecordKind.accepted_of_disabled {σ : Type} (kind : RecordKind) (T : Transport σ)
    (r : Recorder σ) (actions : List Recorder.Action) (hdisabled : r.enabled = false) :
    kind.accepted T r actions = [] := by
  induction actions generalizing r with
  | nil => rfl
  | cons action rest ih =>
    have hnext := (action.enabled_apply T r).mpr (Or.inl hdisabled)
    simp only [accepted, action.record?_of_disabled r kind hdisabled, ih _ hnext]
    rfl

namespace Session

variable {σ : Type}

namespace Lifetime

theorem endMicros_data (life : Lifetime σ) (T : Transport σ) :
    (life.data T).endMicros =
      ((Span.lastFinish (life.calls T)).map fun now => max now life.clock.first.stamp).getD 0 :=
  SpanData.endMicros_after _ _

/-- The last finish decides, with the start. -/
theorem isFinished_data (life : Lifetime σ) (T : Transport σ) :
    (life.data T).isFinished = true ↔ ∃ now,
      Span.lastFinish (life.calls T) = some now ∧ max now life.clock.first.stamp ≠ 0 := by
  unfold SpanData.isFinished
  rw [life.endMicros_data T]
  cases Span.lastFinish (life.calls T) with
  | none => simp
  | some now => simp

theorem actions_dropSpan (life : Lifetime σ) (T : Transport σ) (clock : Clock)
    (hheld : life.held T = true) :
    (Hold.whole clock (.dropSpan life.index)).actions T (life.session T) =
      (life.session T).dropActions T clock ⟨true, life.data T⟩ := by
  simp [Hold.actions, actions, onLive, life.span?_session T hheld]

end Lifetime

/-! ## Spans that were finished -/

theorem dropActions_of_open (T : Transport σ) (s : Session σ) (clock : Clock) (span : Span)
    (hopen : span.data.isFinished = false) :
    ∃ rest, s.dropActions T clock span = .log clock.first (abandonedEntry span.data) :: rest := by
  unfold dropActions
  simp only [hopen, Bool.false_eq_true, if_false]
  split
  · exact ⟨[], rfl⟩
  · exact ⟨_, rfl⟩

/-- Letting a handle go leaves nothing behind if the span is finished or nothing is recorded,
and otherwise it leaves a warning at least. -/
theorem accepted_drop (T : Transport σ) (s : Session σ) (clock : Clock) (span : Span) :
    (∀ kind : RecordKind, kind.accepted T s.recorder (s.dropActions T clock span) = []) ↔
      span.data.isFinished = true ∨ s.recorder.enabled = false := by
  cases hfinished : span.data.isFinished with
  | true =>
    have hnothing : s.dropActions T clock span = [] := by simp [dropActions, hfinished]
    simp [hnothing, RecordKind.accepted]
  | false =>
    cases henabled : s.recorder.enabled with
    | false =>
      simp [RecordKind.accepted_of_disabled _ T s.recorder _ henabled]
    | true =>
      obtain ⟨rest, hrest⟩ := s.dropActions_of_open T clock span hfinished
      have hwarning := Recorder.Action.record?_log s.recorder clock.first
        (abandonedEntry span.data) henabled
      simp only [Bool.false_eq_true, Bool.true_eq_false, or_self, iff_false]
      intro hnothing
      have hlogs := hnothing .log
      rw [hrest, RecordKind.accepted, hwarning] at hlogs
      cases hlogs

/-- A span on which a finish was accepted counts as finished if it was started after time
zero, and otherwise if the last of its finishes came after time zero. When its handle is let
go, nothing is recorded if it counts as finished or if recording has ended, and only then. -/
theorem finished_iff (T : Transport σ) (life : Lifetime σ) (hheld : life.held T = true)
    (hstart : 0 ≤ life.clock.first.stamp)
    (hreadings : ∀ now, .finish now ∈ life.calls T → 0 ≤ now)
    (hfinish : ∃ now, .finish now ∈ life.calls T) :
    ((life.data T).isFinished = true ↔ 0 < life.clock.first.stamp ∨
      ∃ now, Span.lastFinish (life.calls T) = some now ∧ 0 < now) ∧
    ∀ clock, (∀ kind : RecordKind, kind.accepted T (life.session T).recorder
        ((Hold.whole clock (.dropSpan life.index)).actions T (life.session T)) = []) ↔
      (life.data T).isFinished = true ∨ (life.session T).recorder.enabled = false := by
  refine ⟨?_, fun clock => ?_⟩
  · rw [life.isFinished_data T]
    cases hlast : Span.lastFinish (life.calls T) with
    | none =>
      obtain ⟨now, hnow⟩ := hfinish
      exact absurd hnow ((Span.lastFinish_eq_none_iff _).mp hlast now)
    | some last =>
      have hreading := hreadings last (Span.mem_of_lastFinish hlast)
      simp only [Option.some.injEq, exists_eq_left']
      omega
  · rw [life.actions_dropSpan T clock hheld]
    exact (life.session T).accepted_drop T clock ⟨true, life.data T⟩

/-- Started at zero and finished at zero, a span does not count as finished, and when its
handle is let go it is warned of and submitted once more. -/
theorem finished_at_zero :
    ∃ turn, Recorder.create Recording.transport {} {} 7 [] 0 = .ok turn ∧ ∃ recorded,
      let life : Lifetime Recording :=
        ⟨⟨turn.next, []⟩, .all 0, "early", [.whole (.all 0) (.finishSpan 0)], recorded⟩
      let s := life.session Recording.transport
      let drop := (Hold.whole (.all 0) (.dropSpan 0)).actions Recording.transport s
      life.held Recording.transport = true ∧ s.recorder.enabled = true ∧
      .finish 0 ∈ life.calls Recording.transport ∧
      ¬ (life.data Recording.transport).isFinished = true ∧
      ¬ ∀ kind : RecordKind, kind.accepted Recording.transport s.recorder drop = [] := by
  refine ⟨_, rfl, by decide +kernel, by decide +kernel, by decide +kernel, by decide +kernel,
    by decide +kernel, fun hnothing => ?_⟩
  exact absurd (hnothing .log) (by decide +kernel)

/-- The clock goes back before the epoch, but the span was started after it. What comes after
the finish changes nothing. -/
def Resumed.holds : List Hold :=
  [.whole (.all 0) (.finishSpan 0),
    .whole (.all 7) (.setOperation 0 "late"),
    .whole (.all 8) .flush]

theorem finished_iff_resumed :
    ∃ turn, Recorder.create Recording.transport {} {} 7 [] 0 = .ok turn ∧ ∃ recorded,
      let life : Lifetime Recording := ⟨⟨turn.next, []⟩, .all 5, "span", Resumed.holds, recorded⟩
      let s := life.session Recording.transport
      life.calls Recording.transport = [.finish 0, .setOperation "late"] ∧
      ((life.data Recording.transport).isFinished = true ↔ 0 < life.clock.first.stamp ∨
        ∃ now, Span.lastFinish (life.calls Recording.transport) = some now ∧ 0 < now) ∧
      ∀ clock, (∀ kind : RecordKind, kind.accepted Recording.transport s.recorder
          ((Hold.whole clock (.dropSpan life.index)).actions Recording.transport s) = []) ↔
        (life.data Recording.transport).isFinished = true ∨ s.recorder.enabled = false := by
  refine ⟨_, rfl, by decide +kernel, ?_⟩
  intro life s
  have hcalls : life.calls Recording.transport = [.finish 0, .setOperation "late"] := by
    decide +kernel
  refine ⟨hcalls, finished_iff Recording.transport life (by decide +kernel) (by decide) ?_ ?_⟩
  · intro now hnow
    rw [hcalls] at hnow
    simp only [List.mem_cons, Span.Call.finish.injEq, reduceCtorEq, List.not_mem_nil,
      or_false] at hnow
    omega
  · exact ⟨0, by simp [hcalls]⟩

end Session

/-! ## Spans that were not finished -/

/-- A warning that a span with this guid and this operation was given up unfinished. -/
structure LogRecord.Warns (record : LogRecord) (guid operation : String) : Prop where
  level : record.level = .warn
  errorFlag : record.errorFlag = false
  spanGuid : record.spanGuid = some guid
  message : record.message = "finish() never called on span (operation='" ++ operation ++ "')"

namespace Session

variable {σ : Type}

namespace Lifetime

/-- The first half of letting the handle go. -/
def warned (life : Lifetime σ) (T : Transport σ) (clock : Clock) : Turn σ :=
  (Hold.abandon clock.first life.index).apply T (life.session T)

/-- Both halves, and what other threads do between them. -/
def parting (life : Lifetime σ) (T : Transport σ) (clock : Clock) (between : List Hold) :
    List Hold :=
  .abandon clock.first life.index :: (between ++ [.retire clock.second (life.data T)])

theorem isFinished_of_unfinished (life : Lifetime σ) (T : Transport σ)
    (hunfinished : ∀ now, .finish now ∉ life.calls T) : (life.data T).isFinished = false := by
  rw [Bool.eq_false_iff]
  intro hfinished
  obtain ⟨now, hlast, _⟩ := (life.isFinished_data T).mp hfinished
  exact hunfinished now (Span.mem_of_lastFinish hlast)

theorem actions_abandon (life : Lifetime σ) (T : Transport σ) (clock : Readings)
    (hheld : life.held T = true) (hopen : (life.data T).isFinished = false) :
    (Hold.abandon clock life.index).actions T (life.session T) =
      [.log clock (abandonedEntry (life.data T))] := by
  simp [Hold.actions, onLive, life.span?_session T hheld, hopen]

/-- Where nobody comes between them, the two halves are the whole. -/
theorem apply_dropSpan (life : Lifetime σ) (T : Transport σ) (clock : Clock)
    (hheld : life.held T = true) (hopen : (life.data T).isFinished = false)
    (hcalm : (life.warned T clock).trace.panicked = false) :
    (life.session T).apply T clock (.dropSpan life.index) =
      let last := (life.session T).runHolds T (life.parting T clock [])
      ⟨last.1, last.2, none⟩ := by
  have hspan := life.span?_session T hheld
  have hwarned : life.warned T clock =
      (life.session T).abandon T clock.first life.index ⟨true, life.data T⟩ := by
    simp [warned, Hold.apply, onSpan, hspan]
  have hdrop : (life.session T).apply T clock (.dropSpan life.index) =
      (life.session T).drop T clock life.index ⟨true, life.data T⟩ := by
    simp [Session.apply, onSpan, hspan]
  rw [hwarned] at hcalm
  rw [hdrop, drop_halves]
  simp only [hopen, hcalm, Bool.not_false, Bool.and_self, if_true]
  simp [parting, runHolds, Hold.apply, onSpan, hspan]

/-- What the two halves and the others do to the recorder, in the order of the lock. -/
theorem actions_parting (life : Lifetime σ) (T : Transport σ) (clock : Clock)
    (between : List Hold) (hheld : life.held T = true)
    (hopen : (life.data T).isFinished = false) :
    (life.session T).holdActions T (life.parting T clock between) =
      .log clock.first (abandonedEntry (life.data T)) ::
        ((life.warned T clock).next.holdActions T between ++
          [.finishSpan clock.second (life.data T)]) := by
  rw [parting, holdActions, life.actions_abandon T clock.first hheld hopen, holdActions_append]
  simp only [holdActions, Hold.actions, List.append_nil]
  rfl

theorem recorder_warned (life : Lifetime σ) (T : Transport σ) (clock : Clock)
    (hheld : life.held T = true) (hopen : (life.data T).isFinished = false) :
    (life.warned T clock).next.recorder =
      ((Recorder.Action.log clock.first (abandonedEntry (life.data T))).apply T
        (life.session T).recorder).next := by
  have hnext := ((Hold.abandon clock.first life.index).apply_follows T (life.session T)).1
  rw [life.actions_abandon T clock.first hheld hopen] at hnext
  exact hnext

theorem warns_logRecord (life : Lifetime σ) (T : Transport σ) (r : Recorder σ) (now : Int) :
    LogRecord.Warns
      (r.logRecord (abandonedEntry (life.data T)) (r.payloadText none).1 now) life.guid
      ((Span.lastOperation (life.calls T)).getD "") := by
  have hguid : (life.data T).guid = life.guid := SpanData.guid_after _ _
  have hoperation : (life.data T).operation = (Span.lastOperation (life.calls T)).getD "" :=
    SpanData.operation_after _ _
  refine ⟨rfl, rfl, congrArg some hguid, ?_⟩
  rw [← hoperation]
  rfl

/-- If recording goes on until the second half, the warning is accepted in the first half and
the span in the second one, and nothing else is in either. -/
theorem accepted_parting (life : Lifetime σ) (T : Transport σ) (clock : Clock)
    (between : List Hold) (hheld : life.held T = true)
    (hopen : (life.data T).isFinished = false)
    (henabled : (life.session T).recorder.enabled = true)
    (hlate : ((life.warned T clock).next.runHolds T between).1.recorder.enabled = true) :
    let s := life.session T
    let warned := (life.warned T clock).next
    let half := s.holdActions T [.abandon clock.first life.index]
    let parting := s.holdActions T (life.parting T clock between)
    ∃ (warning : RecordKind.log.Record) (record : RecordKind.span.Record),
      LogRecord.Warns warning life.guid ((Span.lastOperation (life.calls T)).getD "") ∧
      SpanRecord.Tells record life.guid (life.calls T) ∧
      RecordKind.log.accepted T s.recorder half = [warning] ∧
      RecordKind.span.accepted T s.recorder half = [] ∧
      RecordKind.log.accepted T s.recorder parting =
        warning :: RecordKind.log.accepted T warned.recorder (warned.holdActions T between) ∧
      RecordKind.span.accepted T s.recorder parting =
        RecordKind.span.accepted T warned.recorder (warned.holdActions T between) ++ [record] := by
  intro s warned half parting
  let first := Recorder.Action.log clock.first (abandonedEntry (life.data T))
  let others := warned.holdActions T between
  let second := Recorder.Action.finishSpan clock.second (life.data T)
  let late := (warned.recorder.run T others).next
  have hhalf : half = [first] :=
    (List.append_nil _).trans (life.actions_abandon T clock.first hheld hopen)
  have hparting : parting = first :: (others ++ [second]) :=
    life.actions_parting T clock between hheld hopen
  have hnext : warned.recorder = (first.apply T s.recorder).next :=
    life.recorder_warned T clock hheld hopen
  have hwarning := Recorder.Action.record?_log s.recorder clock.first
    (abandonedEntry (life.data T)) henabled
  rw [(warned.runHolds_follows T between).1] at hlate
  have hrecord := Recorder.Action.record?_finishSpan late clock.second (life.data T) hlate
  -- Of the first action and the last one, each makes a record of one kind.
  have haccepted : ∀ kind : RecordKind, kind.accepted T s.recorder parting =
      (first.record? s.recorder kind).toList ++
        (kind.accepted T warned.recorder others ++ (second.record? late kind).toList) := by
    intro kind
    rw [hparting, RecordKind.accepted, ← hnext, RecordKind.accepted_append]
    simp only [RecordKind.accepted, List.append_nil]
    rfl
  refine ⟨_, _, life.warns_logRecord T s.recorder clock.first.stamp,
    SpanData.tells_toRecord life.guid late.guid life.clock.first.stamp clock.second.stamp
      (life.calls T), ?_, ?_, ?_, ?_⟩
  · rw [hhalf, RecordKind.accepted, hwarning]
    rfl
  · rw [hhalf]
    rfl
  · rw [haccepted, hwarning]
    exact congrArg _ (List.append_nil _)
  · rw [haccepted, hrecord]
    rfl

end Lifetime

/-- Recording goes on through holds that do not disable it and are not told to. -/
theorem enabled_runHolds (T : Transport σ) (s : Session σ) (holds : List Hold)
    (henabled : s.recorder.enabled = true)
    (hholds : ∀ clock, .whole clock .disable ∉ holds)
    (hcommands : ∀ delivery ∈ (s.runHolds T holds).2.deliveries,
      delivery.requestsDisable = false) :
    (s.runHolds T holds).1.recorder.enabled = true := by
  obtain ⟨hlast, htrace⟩ := s.runHolds_follows T holds
  rw [hlast, ← Bool.not_eq_false, Recorder.enabled_run, ← htrace, s.disable_mem_holdActions T holds]
  rintro (hoff | ⟨clock, hoff⟩ | ⟨delivery, hdelivery, hrequest⟩)
  · exact absurd (henabled.symm.trans hoff) (by decide)
  · exact hholds clock hoff
  · exact absurd ((hcommands delivery hdelivery).symm.trans hrequest) (by decide)

/-- Letting go of a span that nobody finished submits a warning and then the span, each
exactly once, whatever the flushes in between come to and whatever other threads do, unless
recording ends before the second half or the transport breaks down in the first one. As over
any run, each record that is accepted is then held or in a settled report or among those
that were given up, and the counters tell of exactly these. -/
theorem abandoned_submitted (T : Transport σ) (life : Lifetime σ) (clock : Clock)
    (between : List Hold) (hheld : life.held T = true)
    (hunfinished : ∀ now, .finish now ∉ life.calls T)
    (henabled : (life.session T).recorder.enabled = true)
    (hcalm : (life.warned T clock).trace.panicked = false)
    (hheeded : ∀ delivery ∈ (life.warned T clock).trace.deliveries,
      delivery.requestsDisable = false)
    (hothers : ∀ clock, .whole clock .disable ∉ between)
    (hcommands : ∀ delivery ∈ ((life.warned T clock).next.runHolds T between).2.deliveries,
      delivery.requestsDisable = false) :
    let s := life.session T
    let warned := (life.warned T clock).next
    let half := s.holdActions T [.abandon clock.first life.index]
    let parting := s.holdActions T (life.parting T clock between)
    let last := s.recorder.run T parting
    (∃ (warning : RecordKind.log.Record) (record : RecordKind.span.Record),
      LogRecord.Warns warning life.guid ((Span.lastOperation (life.calls T)).getD "") ∧
      SpanRecord.Tells record life.guid (life.calls T) ∧
      RecordKind.log.accepted T s.recorder half = [warning] ∧
      RecordKind.span.accepted T s.recorder half = [] ∧
      RecordKind.log.accepted T s.recorder parting =
        warning :: RecordKind.log.accepted T warned.recorder (warned.holdActions T between) ∧
      RecordKind.span.accepted T s.recorder parting =
        RecordKind.span.accepted T warned.recorder (warned.holdActions T between) ++ [record]) ∧
    (∀ kind : RecordKind, ∃ lost,
      kind.Conserved last.next.guid s.recorder last.next (kind.accepted T s.recorder parting)
        (last.trace.settled s.recorder.guarantee) lost ∧
      ∀ record ∈ kind.accepted T s.recorder parting,
        kind.Accounted last.next.guid record last.next
          (last.trace.settled s.recorder.guarantee) lost) ∧
    (between = [] → s.apply T clock (.dropSpan life.index) =
      ⟨(s.runHolds T (life.parting T clock [])).1,
        (s.runHolds T (life.parting T clock [])).2, none⟩) := by
  intro s warned half parting last
  have hopen := life.isFinished_of_unfinished T hunfinished
  have hlate : (warned.runHolds T between).1.recorder.enabled = true := by
    apply s.enabled_runHolds T (.abandon clock.first life.index :: between) henabled
    · intro reading hmember
      exact hothers reading (by simpa using hmember)
    · intro delivery hdelivery
      simp only [runHolds, Trace.deliveries_append, List.mem_append] at hdelivery
      exact hdelivery.elim (hheeded delivery) (hcommands delivery)
  refine ⟨life.accepted_parting T clock between hheld hopen henabled hlate, ?_, ?_⟩
  · intro kind
    have hkept : Recorder.Action.disable ∉ parting := by
      rw [s.disable_mem_holdActions T (life.parting T clock between)]
      simpa [Lifetime.parting] using hothers
    obtain ⟨lost, hconserved⟩ := kind.conserved_run last.next.guid T s.recorder parting hkept
      fun identity hidentity => (Recorder.guid_of_identity hidentity).symm
    exact ⟨lost, hconserved, hconserved.accounted⟩
  · intro _
    exact life.apply_dropSpan T clock hheld hopen hcalm

/-- A flush is due with every record, and there is one place for logs and none for spans. -/
def Crowded.options : Options where
  maxLogRecords := 1
  maxSpanRecords := 0
  reportingPeriod := .ofSecs 0
  groupName := some "group"
  accessToken := some "token"
  delivery := .retainUntilAcknowledged

/-- The collector is away twice, then it answers. -/
def Crowded.carrier : Recording where
  script := [.settled (.failed (.status 503)), .settled (.failed (.status 503)),
    .settled (.delivered ⟨[], []⟩)]

def Crowded.life (origin : Session Recording) (recorded : origin.recorder.enabled = true) :
    Lifetime Recording where
  origin
  clock := .all 1
  guid := "span"
  holds :=
    [.whole (.all 2) (.setOperation 0 "load"),
      .whole (.all 3) (.spanLog 0 .error "slow" none)]
  recorded

/-- Another thread logs between the two halves. -/
def Crowded.between : List Hold :=
  [.whole (.all 5) (.log { level := .info, message := "busy" })]

/-- The warning takes the place of the log before it, comes back from a flush that fails and
gives way to that of another thread, and both losses are reported. The span finds no place,
and that is still to be reported. -/
theorem abandoned_submitted_crowded :
    ∃ turn, Recorder.create Recording.transport Crowded.carrier Crowded.options 7 [] 0 = .ok turn ∧
      ∃ recorded,
      let life := Crowded.life ⟨turn.next, []⟩ recorded
      let s := life.session Recording.transport
      let warned := (life.warned Recording.transport ⟨.all 4, .all 6⟩).next
      let half := s.holdActions Recording.transport [.abandon (.all 4) life.index]
      let parting := s.holdActions Recording.transport
        (life.parting Recording.transport ⟨.all 4, .all 6⟩ Crowded.between)
      let last := s.recorder.run Recording.transport parting
      (last.trace.settled s.recorder.guarantee).map (fun delivery =>
          (delivery.report.logRecords.map (·.message), delivery.report.counters)) =
        [(["busy"], [⟨droppedLogs, 2⟩, ⟨droppedSpans, 0⟩])] ∧
      last.next.counters = ⟨0, 1⟩ ∧
      (∃ (warning : RecordKind.log.Record) (record : RecordKind.span.Record),
        LogRecord.Warns warning life.guid
          ((Span.lastOperation (life.calls Recording.transport)).getD "") ∧
        SpanRecord.Tells record life.guid (life.calls Recording.transport) ∧
        RecordKind.log.accepted Recording.transport s.recorder half = [warning] ∧
        RecordKind.span.accepted Recording.transport s.recorder half = [] ∧
        RecordKind.log.accepted Recording.transport s.recorder parting =
          warning :: RecordKind.log.accepted Recording.transport warned.recorder
            (warned.holdActions Recording.transport Crowded.between) ∧
        RecordKind.span.accepted Recording.transport s.recorder parting =
          RecordKind.span.accepted Recording.transport warned.recorder
            (warned.holdActions Recording.transport Crowded.between) ++ [record]) ∧
      ∀ kind : RecordKind, ∃ lost,
        kind.Conserved last.next.guid s.recorder last.next
          (kind.accepted Recording.transport s.recorder parting)
          (last.trace.settled s.recorder.guarantee) lost ∧
        ∀ record ∈ kind.accepted Recording.transport s.recorder parting,
          kind.Accounted last.next.guid record last.next
            (last.trace.settled s.recorder.guarantee) lost := by
  refine ⟨_, rfl, by decide +kernel, ?_⟩
  intro life s warned half parting last
  have hcalls : life.calls Recording.transport = [.setOperation "load", .log .error] := by
    decide +kernel
  have hunfinished : ∀ now, .finish now ∉ life.calls Recording.transport := by
    intro now
    simp [hcalls]
  obtain ⟨hrecords, hfates, _⟩ := abandoned_submitted Recording.transport life ⟨.all 4, .all 6⟩
    Crowded.between (by decide +kernel) hunfinished (by decide +kernel) (by decide +kernel)
    (by decide +kernel) (by simp [Crowded.between]) (by decide +kernel)
  exact ⟨by decide +kernel, by decide +kernel, hrecords, hfates⟩

end Session

end Telemetry
