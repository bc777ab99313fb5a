import Telemetry.Proofs.Holding
import Telemetry.Proofs.Threads

/-!
The end of recording. A disable, by a call or by the collector, empties the buffers for
good: every entry looks at the flag first, and no entry raises it again. The handles
outlive it, of those that were live and of the inert ones that are started later, and
none of them reaches the recorder any more.
-/

namespace Telemetry

theorem Delivery.requestsDisable_iff (delivery : Delivery) :
    delivery.requestsDisable = true ↔ ∃ response,
      delivery.answer = .settled (.delivered response) ∧
        ∃ command ∈ response.commands, command.disable = true := by
  unfold requestsDisable
  cases delivery.answer with
  | panicked => simp
  | settled outcome =>
    cases outcome with
    | unconfirmed => simp
    | delivered response => simp [Response.requestsDisable]
    | failed error => simp

namespace Recorder

variable {σ : Type}

/-! ## What disables -/

theorem enabled_after (r : Recorder σ) (delivery : Delivery) (carrier : σ) :
    (r.after delivery carrier).enabled = false ↔
      r.enabled = false ∨ delivery.requestsDisable = true := by
  unfold after
  cases hsettled : delivery.isSettled r.guarantee with
  | true => simp only [if_true, Bool.and_eq_false_iff, Bool.not_eq_false']
  | false =>
    obtain ⟨⟨error, hfailed⟩, _⟩ := (delivery.isSettled_eq_false_iff r.guarantee).mp hsettled
    simp [Delivery.requestsDisable, hfailed]

theorem Action.enabled_apply (action : Action) (T : Transport σ) (r : Recorder σ) :
    (action.apply T r).next.enabled = false ↔
      r.enabled = false ∨ action = .disable ∨
        ∃ delivery ∈ (action.apply T r).trace.deliveries, delivery.requestsDisable = true := by
  rw [← or_assoc, ← action.enabled_taken r]
  rcases action.apply_outcome T r with
    ⟨hsilent, due, carrier, hnext⟩ | ⟨identity, now, carrier, _, hsent, hnext⟩
  · simp [hnext, hsilent]
  · rw [hnext, hsent, enabled_after]
    simp [postponed]

/-- There are two ways for a run to end recording, and no way back. -/
theorem enabled_run (T : Transport σ) (r : Recorder σ) (actions : List Action) :
    (run T r actions).next.enabled = false ↔
      r.enabled = false ∨ .disable ∈ actions ∨
        ∃ delivery ∈ (run T r actions).trace.deliveries, delivery.requestsDisable = true := by
  induction actions generalizing r with
  | nil => simp [run]
  | cons action rest ih =>
    simp only [run, ih (action.apply T r).next, action.enabled_apply T r,
      Trace.deliveries_append, List.mem_append, List.mem_cons, or_and_right, exists_or,
      @eq_comm _ Action.disable, or_assoc, or_left_comm]

/-! ## What is left -/

/-- Nothing is held where nothing is recorded. -/
def Cleared (r : Recorder σ) : Prop :=
  r.enabled = false → r.logs.items = [] ∧ r.spans.items = []

theorem cleared_of_enabled {r : Recorder σ} (henabled : r.enabled = true) : r.Cleared := by
  intro hdisabled
  rw [henabled] at hdisabled
  cases hdisabled

theorem Action.cleared_taken (action : Action) (r : Recorder σ) (hcleared : r.Cleared) :
    (action.taken r).Cleared := by
  have htaking := action.taking r
  generalize action.taken r = recorded at htaking ⊢
  cases htaking with
  | nothing _ => exact hcleared
  | log record hlog _ =>
    intro hdisabled
    rw [action.record?_of_disabled r .log hdisabled] at hlog
    cases hlog
  | span record _ hspan =>
    intro hdisabled
    rw [action.record?_of_disabled r .span hdisabled] at hspan
    cases hspan
  | identity _ _ identity _ _ _ => exact hcleared
  | flag _ => exact hcleared
  | off _ _ => exact fun _ => ⟨rfl, rfl⟩

/-- A report that comes back comes back to a recorder that goes on. -/
theorem Action.cleared_apply (action : Action) (T : Transport σ) (r : Recorder σ)
    (hcleared : r.Cleared) : (action.apply T r).next.Cleared := by
  rcases action.apply_outcome T r with
    ⟨_, due, carrier, hnext⟩ | ⟨identity, now, carrier, hready, _, hnext⟩
  · rw [hnext]
    exact action.cleared_taken r hcleared
  · rw [hnext]
    unfold after
    split
    · exact fun _ => ⟨rfl, rfl⟩
    · intro hdisabled
      exact absurd hready.enabled (by simpa [postponed] using hdisabled)

theorem cleared_run (T : Transport σ) (r : Recorder σ) (actions : List Action)
    (hcleared : r.Cleared) : (run T r actions).next.Cleared := by
  induction actions generalizing r with
  | nil => exact hcleared
  | cons action rest ih => exact ih (action.apply T r).next (action.cleared_apply T r hcleared)

/-- Recording has ended, with these counters and this start of the open window. -/
structure Ended (r : Recorder σ) (counters : DropCounters) (oldestMicros : Int) : Prop where
  disabled : r.enabled = false
  logs : r.logs.items = []
  spans : r.spans.items = []
  counters : r.counters = counters
  reportStartMicros : r.reportStartMicros = oldestMicros

theorem Cleared.ended {r : Recorder σ} (hcleared : r.Cleared) (hdisabled : r.enabled = false) :
    r.Ended r.counters r.reportStartMicros :=
  ⟨hdisabled, (hcleared hdisabled).1, (hcleared hdisabled).2, rfl, rfl⟩

section

variable {counters : DropCounters} {oldestMicros : Int}

theorem Action.ended_taken (action : Action) (r : Recorder σ)
    (hended : r.Ended counters oldestMicros) : (action.taken r).Ended counters oldestMicros := by
  have hnone := fun kind => action.record?_of_disabled r kind hended.disabled
  have htaking := action.taking r
  generalize action.taken r = recorded at htaking ⊢
  cases htaking with
  | nothing _ => exact hended
  | log record hlog _ =>
    rw [hnone] at hlog
    cases hlog
  | span record _ hspan =>
    rw [hnone] at hspan
    cases hspan
  | identity _ _ identity _ _ _ => exact { hended with }
  | flag _ => exact { hended with }
  | off _ _ => exact { hended with disabled := rfl, logs := rfl, spans := rfl }

theorem Action.ended_apply (action : Action) (T : Transport σ) (r : Recorder σ)
    (hended : r.Ended counters oldestMicros) :
    (action.apply T r).trace.deliveries = [] ∧
      (action.apply T r).next.Ended counters oldestMicros := by
  have htaken := action.ended_taken r hended
  rcases action.apply_outcome T r with
    ⟨hsilent, due, carrier, hnext⟩ | ⟨identity, now, carrier, hready, _⟩
  · rw [hnext]
    exact ⟨hsilent, { htaken with }⟩
  · exact absurd hready.enabled (by simp [htaken.disabled])

theorem ended_run (T : Transport σ) (r : Recorder σ) (actions : List Action)
    (hended : r.Ended counters oldestMicros) :
    (run T r actions).trace.deliveries = [] ∧
      (run T r actions).next.Ended counters oldestMicros := by
  induction actions generalizing r with
  | nil => exact ⟨rfl, hended⟩
  | cons action rest ih =>
    obtain ⟨hsilent, hnext⟩ := action.ended_apply T r hended
    obtain ⟨hlater, hlast⟩ := ih (action.apply T r).next hnext
    simp only [run, Trace.deliveries_append, hsilent, hlater]
    exact ⟨rfl, hlast⟩

end

/-- No report goes out after the one that was answered with a disable. -/
theorem last_of_requestsDisable (T : Transport σ) (r : Recorder σ) (actions : List Action)
    (hcleared : r.Cleared) : ∀ earlier delivery others,
      (run T r actions).trace.deliveries = earlier ++ delivery :: others →
      delivery.requestsDisable = true → others = [] := by
  induction actions generalizing r with
  | nil =>
    intro earlier delivery others hsplit _
    simp [run] at hsplit
  | cons action rest ih =>
    have hnext := action.cleared_apply T r hcleared
    have hrest := ih (action.apply T r).next hnext
    intro earlier delivery others hsplit hrequest
    simp only [run, Trace.deliveries_append] at hsplit
    rcases action.apply_outcome T r with ⟨hsilent, _⟩ | ⟨identity, now, carrier, _, hsent, _⟩
    · rw [hsilent, List.nil_append] at hsplit
      exact hrest earlier delivery others hsplit hrequest
    · rw [hsent, List.singleton_append] at hsplit
      cases earlier with
      | nil =>
        obtain ⟨hthis, hothers⟩ := List.cons.inj hsplit
        have hdisabled : (action.apply T r).next.enabled = false := by
          refine (action.enabled_apply T r).mpr (Or.inr (Or.inr ⟨delivery, ?_, hrequest⟩))
          rw [hsent, hthis]
          exact List.mem_singleton_self delivery
        rw [← hothers]
        exact (ended_run T (action.apply T r).next rest (hnext.ended hdisabled)).1
      | cons one earlier =>
        exact hrest earlier delivery others (List.cons.inj hsplit).2 hrequest

end Recorder

/-! ## Handles -/

namespace Span

/-- The same span, finished or not as before, and untouched if it is inert. -/
structure Lasts (before after : Span) : Prop where
  live : after.live = before.live
  finished : after.data.isFinished = before.data.isFinished
  inert : before.live = false → after = before

theorem Lasts.refl (span : Span) : span.Lasts span :=
  ⟨rfl, rfl, fun _ => rfl⟩

theorem Lasts.trans {a b c : Span} (hab : a.Lasts b) (hbc : b.Lasts c) : a.Lasts c where
  live := hbc.live.trans hab.live
  finished := hbc.finished.trans hab.finished
  inert hinert := (hbc.inert (hab.live.trans hinert)).trans (hab.inert hinert)

/-- Changing what a span tells does not finish it. -/
theorem lasts_change (span : Span) (f : SpanData → SpanData)
    (hend : (f span.data).endMicros = span.data.endMicros) : span.Lasts (span.change f) := by
  unfold change
  cases hlive : span.live with
  | true =>
    refine ⟨hlive.symm, ?_, fun hinert => ?_⟩
    · simp [SpanData.isFinished, hend]
    · rw [hlive] at hinert
      cases hinert
  | false => exact Lasts.refl span

theorem lasts_addJoinId (span : Span) (key value : String) :
    span.Lasts (span.addJoinId key value) :=
  span.lasts_change (fun data => { data with joinIds := data.joinIds.insert key value }) rfl

theorem lasts_setParent (span parent : Span) : span.Lasts (span.setParent parent) := by
  let inherited := span.change fun data =>
    { data with joinIds := inherit data.joinIds parent.data.joinIds }
  have hinherited : span.Lasts inherited := span.lasts_change _ rfl
  have hnamed : inherited.Lasts (inherited.addAttribute parentSpanKey parent.data.guid) :=
    inherited.lasts_change _ rfl
  exact hinherited.trans hnamed

end Span

namespace Session

variable {σ : Type}

/-- No handle has come back or was finished, and all new ones are inert. -/
structure Lasts (before after : Session σ) : Prop where
  length_le : before.spans.length ≤ after.spans.length
  handles : ∀ index span, after.span? index = some span →
    (∃ earlier : Span, before.span? index = some earlier ∧ earlier.Lasts span) ∨
      (before.spans.length ≤ index ∧ span = .inert)

theorem Lasts.of_spans {before after : Session σ} (hspans : after.spans = before.spans) :
    before.Lasts after := by
  refine ⟨Nat.le_of_eq (congrArg List.length hspans.symm), fun index span hspan => Or.inl ?_⟩
  unfold span? at hspan ⊢
  rw [hspans] at hspan
  exact ⟨span, hspan, Span.Lasts.refl span⟩

theorem Lasts.trans {a b c : Session σ} (hab : a.Lasts b) (hbc : b.Lasts c) : a.Lasts c := by
  refine ⟨Nat.le_trans hab.length_le hbc.length_le, fun index span hspan => ?_⟩
  rcases hbc.handles index span hspan with ⟨middle, hmiddle, hlater⟩ | ⟨hnew, hinert⟩
  · rcases hab.handles index middle hmiddle with ⟨earlier, hearlier, hfirst⟩ | ⟨hnew, rfl⟩
    · exact Or.inl ⟨earlier, hearlier, hfirst.trans hlater⟩
    · exact Or.inr ⟨hnew, hlater.inert rfl⟩
  · exact Or.inr ⟨Nat.le_trans hab.length_le hnew, hinert⟩

theorem Lasts.follow {before after : Session σ} {turn : Recorder.Turn σ}
    (hlasts : before.Lasts after) : before.Lasts (after.follow turn).next :=
  hlasts.trans (Lasts.of_spans rfl)

theorem lasts_setSpan (s : Session σ) (index : Nat) (span : Span) (changed : Option Span)
    (hspan : s.span? index = some span) (hchanged : ∀ after ∈ changed, Span.Lasts span after) :
    s.Lasts (s.setSpan index changed) := by
  refine ⟨by simp [setSpan], fun place after hafter => Or.inl ?_⟩
  by_cases hplace : place = index
  · subst hplace
    refine ⟨span, hspan, hchanged after ?_⟩
    simp only [span?, setSpan, List.getElem?_set_self'] at hafter
    cases hold : s.spans[place]? with
    | none =>
      rw [hold] at hafter
      cases hafter
    | some _ =>
      rw [hold] at hafter
      exact hafter
  · refine ⟨after, ?_, Span.Lasts.refl after⟩
    simpa only [span?, setSpan, List.getElem?_set_ne (Ne.symm hplace)] using hafter

theorem lasts_edit (s : Session σ) (index : Nat) (f : Span → Span)
    (hf : ∀ span : Span, span.Lasts (f span)) : s.Lasts (s.edit index f).next := by
  unfold edit
  cases hspan : s.span? index with
  | none => exact Lasts.of_spans rfl
  | some span =>
    apply s.lasts_setSpan index span (some (f span)) hspan
    rintro _ ⟨⟩
    exact hf span

theorem lasts_onSpan (s : Session σ) (index : Nat) (f : Span → Turn σ)
    (hf : ∀ span, s.span? index = some span → s.Lasts (f span).next) :
    s.Lasts (s.onSpan index f).next := by
  unfold onSpan
  cases hspan : s.span? index with
  | none => exact Lasts.of_spans rfl
  | some span => exact hf span hspan

theorem lasts_start (s : Session σ) :
    s.Lasts { s with spans := s.spans ++ [some .inert] } := by
  refine ⟨by simp, fun index span hspan => ?_⟩
  by_cases hold : index < s.spans.length
  · refine Or.inl ⟨span, ?_, Span.Lasts.refl span⟩
    simpa only [span?, List.getElem?_append_left hold] using hspan
  · have hnew : s.spans.length ≤ index := Nat.le_of_not_lt hold
    simp only [span?, List.getElem?_append_right hnew] at hspan
    cases hplace : index - s.spans.length with
    | zero =>
      rw [hplace] at hspan
      cases hspan
      exact Or.inr ⟨hnew, rfl⟩
    | succ later =>
      rw [hplace] at hspan
      cases hspan

theorem lasts_letGo (s : Session σ) (index : Nat) (span : Span)
    (hspan : s.span? index = some span) : s.Lasts (s.setSpan index none) :=
  s.lasts_setSpan index span none hspan fun _ hafter => by cases hafter

theorem drop_spans (T : Transport σ) (s : Session σ) (clock : Clock) (index : Nat)
    (span : Span) : (s.drop T clock index span).next.spans = (s.setSpan index none).spans := by
  rw [s.drop_eq T clock index span _ rfl]
  split
  · split
    · rfl
    · rfl
  · rfl

theorem abandon_spans (T : Transport σ) (s : Session σ) (clock : Readings) (index : Nat)
    (span : Span) : (s.abandon T clock index span).next.spans = (s.setSpan index none).spans := by
  unfold abandon
  dsimp only
  split
  · rfl
  · rfl

/-- Once nothing is recorded, no step finishes a span or starts one that is not inert. -/
theorem lasts_apply (T : Transport σ) (s : Session σ) (clock : Clock) (step : Step)
    (hdisabled : s.recorder.enabled = false) : s.Lasts (s.apply T clock step).next := by
  cases step with
  | log entry => exact Lasts.of_spans rfl
  | flush => exact Lasts.of_spans rfl
  | disable => exact Lasts.of_spans rfl
  | shutdown => exact Lasts.of_spans rfl
  | setIdentity groupName accessToken =>
    simp only [apply]
    cases s.recorder.setIdentity groupName accessToken with
    | ok turn => exact Lasts.of_spans rfl
    | error refusal => exact Lasts.of_spans rfl
  | startSpan guid =>
    have hinert : s.recorder.startSpan guid clock.first.stamp = .inert := by
      simp [Recorder.startSpan, hdisabled]
    simp only [apply, hinert]
    exact s.lasts_start
  | setOperation index name =>
    exact s.lasts_edit index _ fun span =>
      span.lasts_change (fun data => { data with operation := name }) rfl
  | addAttribute index key value =>
    exact s.lasts_edit index _ fun span =>
      span.lasts_change (fun data => { data with attributes := data.attributes.insert key value })
        rfl
  | addJoinId index key value => exact s.lasts_edit index _ fun span => span.lasts_addJoinId key value
  | setEndUserId index value =>
    exact s.lasts_edit index _ fun span => span.lasts_addJoinId endUserKey value
  | setParent index parent =>
    simp only [apply]
    cases s.span? parent with
    | none => exact Lasts.of_spans rfl
    | some parent => exact s.lasts_edit index _ fun span => span.lasts_setParent parent
  | spanLog index level message payload =>
    apply s.lasts_onSpan index
    intro span hspan
    unfold logOn
    split
    · apply Lasts.follow
      apply s.lasts_setSpan index span (some (span.noteLevel level)) hspan
      rintro _ ⟨⟩
      exact span.lasts_change (fun data => { data with errorFlag := data.errorFlag || level.isError })
        rfl
    · exact Lasts.of_spans rfl
  | finishSpan index =>
    apply s.lasts_onSpan index
    intro span hspan
    unfold finish
    split
    · have hunfinished := s.recorder.finishSpan_disabled T clock.first span.data hdisabled
      simp only [hunfinished]
      apply Lasts.follow
      apply s.lasts_setSpan index span (some span) hspan
      rintro _ ⟨⟩
      exact Span.Lasts.refl span
    · exact Lasts.of_spans rfl
  | dropSpan index =>
    apply s.lasts_onSpan index
    intro span hspan
    exact (s.lasts_letGo index span hspan).trans (Lasts.of_spans (s.drop_spans T clock index span))

theorem Hold.lasts_apply (hold : Hold) (T : Transport σ) (s : Session σ)
    (hdisabled : s.recorder.enabled = false) : s.Lasts (hold.apply T s).next := by
  cases hold with
  | whole clock step => exact s.lasts_apply T clock step hdisabled
  | abandon clock index =>
    apply s.lasts_onSpan index
    intro span hspan
    exact (s.lasts_letGo index span hspan).trans
      (Lasts.of_spans (s.abandon_spans T clock index span))
  | retire clock data => exact Lasts.of_spans rfl

theorem lasts_runHolds (T : Transport σ) (s : Session σ) (holds : List Hold)
    {counters : DropCounters} {oldestMicros : Int}
    (hended : s.recorder.Ended counters oldestMicros) : s.Lasts (s.runHolds T holds).1 := by
  induction holds generalizing s with
  | nil => exact Lasts.of_spans rfl
  | cons hold rest ih =>
    have hnext : (hold.apply T s).next.recorder.Ended counters oldestMicros := by
      rw [(hold.apply_follows T s).1]
      exact (s.recorder.ended_run T _ hended).2
    exact (hold.lasts_apply T s hended.disabled).trans (ih (hold.apply T s).next hnext)

/-- Recording ends when it is disabled by a call or by a command of the collector, at
whatever place in its answer, and in no other way. From then on, whatever the threads do,
nothing is recorded again, nothing is sent or held, the counters and the open window
stay, new spans are inert, and no span is finished, not even one whose handle was let go
before. The report with that answer is the last one. -/
theorem disabled_for_good (T : Transport σ) (carrier : σ) (options : Options)
    (processId : UInt32) (draws : List UInt64) (now : Int) (turn : Recorder.Turn σ)
    (hcreate : Recorder.create T carrier options processId draws now = .ok turn)
    (before later : List Hold) :
    let first := runHolds T ⟨turn.next, []⟩ before
    let last := first.1.runHolds T later
    (first.1.recorder.enabled = false ↔ (∃ clock, .whole clock .disable ∈ before) ∨
      ∃ delivery ∈ first.2.deliveries, ∃ response,
        delivery.answer = .settled (.delivered response) ∧
          ∃ command ∈ response.commands, command.disable = true) ∧
    (∀ earlier delivery others, first.2.deliveries = earlier ++ delivery :: others →
      delivery.requestsDisable = true → others = []) ∧
    (first.1.recorder.enabled = false →
      last.2.deliveries = [] ∧
      last.1.recorder.Ended first.1.recorder.counters first.1.recorder.reportStartMicros ∧
      first.1.Lasts last.1 ∧
      ∀ clock data, (last.1.recorder.finishSpan T clock data).1 = data) := by
  intro first last
  have hfresh := Recorder.create_fresh T carrier options processId draws now turn hcreate
  have hcleared := Recorder.cleared_of_enabled hfresh.enabled
  let s : Session σ := ⟨turn.next, []⟩
  obtain ⟨hfirst, htrace⟩ : first.1.recorder = (turn.next.run T (s.holdActions T before)).next ∧
      first.2 = (turn.next.run T (s.holdActions T before)).trace := s.runHolds_follows T before
  obtain ⟨hlast, hsilence⟩ := first.1.runHolds_follows T later
  refine ⟨?_, ?_, ?_⟩
  · have hends := turn.next.enabled_run T (s.holdActions T before)
    rw [hfirst, htrace, hends, s.disable_mem_holdActions T before, hfresh.enabled]
    simp only [Bool.true_eq_false, false_or, Delivery.requestsDisable_iff]
  · rw [htrace]
    exact turn.next.last_of_requestsDisable T _ hcleared
  · intro hdisabled
    have hempty : first.1.recorder.Cleared := by
      rw [hfirst]
      exact turn.next.cleared_run T _ hcleared
    obtain ⟨hsent, hended⟩ := first.1.recorder.ended_run T (first.1.holdActions T later)
      (hempty.ended hdisabled)
    rw [← hsilence] at hsent
    rw [← hlast] at hended
    exact ⟨hsent, hended, first.1.lasts_runHolds T later (hempty.ended hdisabled),
      fun clock data => congrArg Prod.fst
        (last.1.recorder.finishSpan_disabled T clock data hended.disabled)⟩

/-- The second command of the answer is the one that counts. -/
def Ending.carrier : Recording where
  script := [.settled (.delivered ⟨[⟨false⟩, ⟨true⟩], []⟩)]

/-- The flush after a warning is answered with a disable, before the span that it warns
of can be finished. -/
def Ending.before : List Hold :=
  [.whole (.all 1) (.setIdentity "group" "token"),
    .whole (.all 2) (.startSpan "kept"),
    .whole (.all 3) (.startSpan "abandoned"),
    .abandon ⟨4, 6000000, 5⟩ 1]

/-- Both spans are finished too late, and what else there is to do is done. -/
def Ending.later : List Hold :=
  [.retire (.all 6) { guid := "abandoned", startMicros := 3 },
    .whole (.all 7) (.log { level := .error, message := "late" }),
    .whole (.all 8) (.finishSpan 0),
    .whole (.all 9) (.startSpan "late"),
    .whole (.all 10) (.finishSpan 2),
    .whole (.all 11) .flush,
    .whole (.all 12) .shutdown]

theorem disabled_for_good_ending :
    ∃ turn, Recorder.create Recording.transport Ending.carrier {} 7 [] 0 = .ok turn ∧
      let first := runHolds Recording.transport ⟨turn.next, []⟩ Ending.before
      let last := first.1.runHolds Recording.transport Ending.later
      first.1.recorder.enabled = false ∧ first.2.deliveries.length = 1 ∧
      last.1.span? 0 = some (.start "kept" 2) ∧ last.1.span? 1 = none ∧
      last.1.span? 2 = some .inert ∧
      last.2.deliveries = [] ∧
      last.1.recorder.Ended first.1.recorder.counters first.1.recorder.reportStartMicros ∧
      first.1.Lasts last.1 ∧
      ∀ clock data, (last.1.recorder.finishSpan Recording.transport clock data).1 = data :=
  ⟨_, rfl, by decide +kernel, by decide +kernel, by decide +kernel, by decide +kernel,
    by decide +kernel,
    (disabled_for_good Recording.transport Ending.carrier {} 7 [] 0 _ rfl Ending.before
      Ending.later).2.2 (by decide +kernel)⟩

end Session

end Telemetry
