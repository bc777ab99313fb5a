import Telemetry.Session
import Telemetry.Proofs.Run

/-!
A session as a run of its recorder. What is done with span handles reaches the
recorder as logs and finished spans, so a law of all runs is one of all sessions.
Changes to a handle alone are no actions.
-/

namespace Telemetry

namespace Session

variable {σ : Type}

/-- The actions on a span whose handle is still there and not inert. -/
def onLive (s : Session σ) (index : Nat) (f : Span → List Recorder.Action) :
    List Recorder.Action :=
  match s.span? index with
  | some span => if span.live then f span else []
  | none => []

def abandonedEntry (data : SpanData) : Entry where
  spanGuid := some data.guid
  level := .warn
  message := Span.abandonedMessage data

/-- Letting go of a span that is not finished logs and then finishes it, unless the
flush after the log panics. -/
def dropActions (T : Transport σ) (s : Session σ) (clock : Clock) (span : Span) :
    List Recorder.Action :=
  let entry := abandonedEntry span.data
  if span.data.isFinished then []
  else if (s.recorder.log T clock.first entry).trace.panicked then [.log clock.first entry]
  else [.log clock.first entry, .finishSpan clock.second span.data]

/-- The holds of the recorder's lock that a step takes, in their order. -/
def actions (T : Transport σ) (s : Session σ) (clock : Clock) : Step → List Recorder.Action
  | .log entry => [.log clock.first entry]
  | .flush => [.flush clock.first.flush]
  | .disable => [.disable]
  | .shutdown => [.shutdown clock.first.flush]
  | .setIdentity groupName accessToken => [.setIdentity groupName accessToken]
  | .startSpan _ | .setOperation .. | .addAttribute .. | .addJoinId .. | .setEndUserId ..
  | .setParent .. => []
  | .spanLog index level message payload =>
    s.onLive index fun span =>
      [.log clock.first { spanGuid := some span.data.guid, level, message, payload }]
  | .finishSpan index => s.onLive index fun span => [.finishSpan clock.first span.data]
  | .dropSpan index => s.onLive index (s.dropActions T clock)

def runActions (T : Transport σ) (s : Session σ) : List (Clock × Step) → List Recorder.Action
  | [] => []
  | (clock, step) :: rest =>
    s.actions T clock step ++ runActions T (s.apply T clock step).next rest

/-- The recorder and the trace are those of a run of the recorder. -/
def Turn.Follows (turn : Turn σ) (run : Recorder.Turn σ) : Prop :=
  turn.next.recorder = run.next ∧ turn.trace = run.trace

theorem edit_follows (T : Transport σ) (s : Session σ) (index : Nat) (f : Span → Span) :
    (s.edit index f).Follows (s.recorder.run T []) := by
  unfold edit
  cases s.span? index with
  | some span => exact ⟨rfl, rfl⟩
  | none => exact ⟨rfl, rfl⟩

theorem action_follows (T : Transport σ) (s : Session σ) (r : Recorder σ)
    (action : Recorder.Action) :
    (s.follow (action.apply T r)).Follows (r.run T [action]) := by
  refine ⟨rfl, ?_⟩
  simp [follow, Recorder.run]

theorem onSpan_follows (T : Transport σ) (s : Session σ) (index : Nat) (f : Span → Turn σ)
    (g : Span → List Recorder.Action)
    (hlive : ∀ span, span.live = true → (f span).Follows (s.recorder.run T (g span)))
    (hinert : ∀ span, span.live = false → (f span).Follows (s.recorder.run T [])) :
    (s.onSpan index f).Follows (s.recorder.run T (s.onLive index g)) := by
  unfold onSpan onLive
  cases s.span? index with
  | none => exact ⟨rfl, rfl⟩
  | some span =>
    cases hspan : span.live with
    | true => simpa [hspan] using hlive span hspan
    | false => simpa [hspan] using hinert span hspan

theorem drop_eq (T : Transport σ) (s : Session σ) (clock : Clock) (index : Nat) (span : Span)
    (warned : Recorder.Turn σ)
    (hwarned : s.recorder.log T clock.first (abandonedEntry span.data) = warned) :
    s.drop T clock index span =
      if span.live && !span.data.isFinished then
        if warned.trace.panicked then (s.setSpan index none).follow warned
        else
          let finished := (warned.next.finishSpan T clock.second span.data).2
          (s.setSpan index none).follow ⟨finished.next, warned.trace ++ finished.trace⟩
      else { next := s.setSpan index none } := by
  subst hwarned
  rfl

theorem drop_follows (T : Transport σ) (s : Session σ) (clock : Clock) (index : Nat)
    (span : Span) (hlive : span.live = true) :
    (s.drop T clock index span).Follows (s.recorder.run T (s.dropActions T clock span)) := by
  let warned := s.recorder.log T clock.first (abandonedEntry span.data)
  have hactions : s.dropActions T clock span =
      if span.data.isFinished then []
      else if warned.trace.panicked then [.log clock.first (abandonedEntry span.data)]
      else [.log clock.first (abandonedEntry span.data), .finishSpan clock.second span.data] := rfl
  rw [s.drop_eq T clock index span warned rfl, hactions, hlive]
  cases span.data.isFinished with
  | true => exact ⟨rfl, rfl⟩
  | false =>
    cases warned.trace.panicked with
    | true =>
      simp only [Bool.not_false, Bool.and_self, Bool.false_eq_true, if_true, if_false]
      exact action_follows T (s.setSpan index none) s.recorder
        (.log clock.first (abandonedEntry span.data))
    | false =>
      simp only [Bool.not_false, Bool.and_self, Bool.false_eq_true, if_true, if_false]
      refine ⟨rfl, ?_⟩
      simp [follow, Recorder.run, Recorder.Action.apply, warned]

/-- A step of a session is a run of its recorder. -/
theorem apply_follows (T : Transport σ) (s : Session σ) (clock : Clock) (step : Step) :
    (s.apply T clock step).Follows (s.recorder.run T (s.actions T clock step)) := by
  cases step with
  | log entry => exact action_follows T s s.recorder (.log clock.first entry)
  | flush => exact action_follows T s s.recorder (.flush clock.first.flush)
  | disable => exact action_follows T s s.recorder .disable
  | shutdown => exact action_follows T s s.recorder (.shutdown clock.first.flush)
  | setIdentity groupName accessToken =>
    unfold apply Turn.Follows
    simp only [actions, Recorder.run, Recorder.Action.apply]
    cases s.recorder.setIdentity groupName accessToken with
    | ok turn => simp [follow]
    | error refusal => simp
  | startSpan guid => exact ⟨rfl, rfl⟩
  | setOperation index name => exact edit_follows T s index _
  | addAttribute index key value => exact edit_follows T s index _
  | addJoinId index key value => exact edit_follows T s index _
  | setEndUserId index value => exact edit_follows T s index _
  | setParent index parent =>
    simp only [apply]
    cases s.span? parent with
    | some parent => exact edit_follows T s index _
    | none => exact ⟨rfl, rfl⟩
  | spanLog index level message payload =>
    apply onSpan_follows T s index
    · intro span hlive
      simp only [logOn, hlive, if_true]
      exact action_follows T (s.setSpan index (some (span.noteLevel level))) s.recorder
        (.log clock.first { spanGuid := some span.data.guid, level, message, payload })
    · intro span hinert
      simp only [logOn, hinert]
      exact ⟨rfl, rfl⟩
  | finishSpan index =>
    apply onSpan_follows T s index
    · intro span hlive
      simp only [finish, hlive, if_true]
      exact action_follows T _ s.recorder (.finishSpan clock.first span.data)
    · intro span hinert
      simp only [finish, hinert]
      exact ⟨rfl, rfl⟩
  | dropSpan index =>
    apply onSpan_follows T s index
    · intro span hlive
      exact drop_follows T s clock index span hlive
    · intro span hinert
      simp only [drop, hinert]
      exact ⟨rfl, rfl⟩

end Session

namespace Recorder

variable {σ : Type}

theorem run_append (T : Transport σ) (r : Recorder σ) (first later : List Action) :
    run T r (first ++ later) =
      ⟨(run T (run T r first).next later).next,
        (run T r first).trace ++ (run T (run T r first).next later).trace⟩ := by
  induction first generalizing r with
  | nil => rfl
  | cons action rest ih => simp [run, ih]

end Recorder

namespace Session

variable {σ : Type}

/-- What holds of every run of a recorder holds of every session. -/
theorem run_follows (T : Transport σ) (s : Session σ) (steps : List (Clock × Step)) :
    (s.run T steps).1.recorder = (s.recorder.run T (s.runActions T steps)).next ∧
      (s.run T steps).2 = (s.recorder.run T (s.runActions T steps)).trace := by
  induction steps generalizing s with
  | nil => exact ⟨rfl, rfl⟩
  | cons head rest ih =>
    obtain ⟨clock, step⟩ := head
    obtain ⟨hnext, htrace⟩ := s.apply_follows T clock step
    obtain ⟨hlast, hlater⟩ := ih (s.apply T clock step).next
    rw [hnext] at hlast hlater
    simp only [run, runActions, Recorder.run_append]
    rw [hlast, hlater, htrace]
    exact ⟨rfl, rfl⟩

theorem disable_not_mem_onLive (s : Session σ) (index : Nat) (f : Span → List Recorder.Action)
    (hkept : ∀ span, Recorder.Action.disable ∉ f span) :
    Recorder.Action.disable ∉ s.onLive index f := by
  unfold onLive
  cases s.span? index with
  | none => exact List.not_mem_nil
  | some span =>
    dsimp only
    split
    · exact hkept span
    · exact List.not_mem_nil

/-- Only a disable disables. -/
theorem disable_not_mem_actions (T : Transport σ) (s : Session σ) (clock : Clock) (step : Step)
    (hstep : step ≠ .disable) : Recorder.Action.disable ∉ s.actions T clock step := by
  cases step with
  | disable => exact absurd rfl hstep
  | spanLog index level message payload =>
    exact s.disable_not_mem_onLive index _ fun span => by simp
  | finishSpan index => exact s.disable_not_mem_onLive index _ fun span => by simp
  | dropSpan index =>
    apply s.disable_not_mem_onLive index
    intro span
    unfold dropActions
    dsimp only
    split
    · exact List.not_mem_nil
    · split
      · simp
      · simp
  | _ => simp [actions]

theorem disable_not_mem_runActions (T : Transport σ) (s : Session σ)
    (steps : List (Clock × Step)) (hsteps : ∀ entry ∈ steps, entry.2 ≠ .disable) :
    Recorder.Action.disable ∉ s.runActions T steps := by
  induction steps generalizing s with
  | nil => exact List.not_mem_nil
  | cons head rest ih =>
    obtain ⟨clock, step⟩ := head
    have hfirst := s.disable_not_mem_actions T clock step (hsteps _ List.mem_cons_self)
    have hrest := ih (s.apply T clock step).next fun entry hentry =>
      hsteps entry (List.mem_cons_of_mem _ hentry)
    simp only [runActions, List.mem_append]
    exact not_or.mpr ⟨hfirst, hrest⟩

end Session

end Telemetry
