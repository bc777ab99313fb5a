import Telemetry.Proofs.Session

/-!
Sessions whose handles belong to several threads. A step holds the recorder's lock
once at most, but letting go of an unfinished span holds it twice, for the warning and
for the span, and other threads may come between the two. So what the threads do
together is one list of holds, in which both halves stand by themselves.
-/

namespace Telemetry

namespace Session

variable {σ : Type}

/-- What nobody comes between. -/
inductive Hold
  | whole (clock : Clock) (step : Step)
  /-- A handle is gone, and a live span that is not finished is logged about. -/
  | abandon (clock : Readings) (index : Nat)
  /-- A span whose handle is gone is finished. -/
  | retire (clock : Readings) (data : SpanData)

def abandon (T : Transport σ) (s : Session σ) (clock : Readings) (index : Nat) (span : Span) :
    Turn σ :=
  let s := s.setSpan index none
  if span.live && !span.data.isFinished then
    s.follow (s.recorder.log T clock (abandonedEntry span.data))
  else { next := s }

namespace Hold

def apply (hold : Hold) (T : Transport σ) (s : Session σ) : Turn σ :=
  match hold with
  | .whole clock step => s.apply T clock step
  | .abandon clock index => s.onSpan index fun span => s.abandon T clock index span
  | .retire clock data => s.follow (s.recorder.finishSpan T clock data).2

/-- What a hold does to the recorder. -/
def actions (hold : Hold) (T : Transport σ) (s : Session σ) : List Recorder.Action :=
  match hold with
  | .whole clock step => s.actions T clock step
  | .abandon clock index =>
    s.onLive index fun span =>
      if span.data.isFinished then [] else [.log clock (abandonedEntry span.data)]
  | .retire clock data => [.finishSpan clock data]

end Hold

/-- Holds in the order in which the threads got the lock. -/
def runHolds (T : Transport σ) (s : Session σ) : List Hold → Session σ × Trace
  | [] => (s, [])
  | hold :: rest =>
    let turn := hold.apply T s
    let (last, trace) := runHolds T turn.next rest
    (last, turn.trace ++ trace)

def holdActions (T : Transport σ) (s : Session σ) : List Hold → List Recorder.Action
  | [] => []
  | hold :: rest => hold.actions T s ++ holdActions T (hold.apply T s).next rest

/-- Where nobody comes between its halves, letting go of a handle is one step. -/
theorem drop_halves (T : Transport σ) (s : Session σ) (clock : Clock) (index : Nat)
    (span : Span) :
    s.drop T clock index span =
      let abandoned := s.abandon T clock.first index span
      if span.live && !span.data.isFinished && !abandoned.trace.panicked then
        let retired := (Hold.retire clock.second span.data).apply T abandoned.next
        ⟨retired.next, abandoned.trace ++ retired.trace, none⟩
      else abandoned := by
  let warned := s.recorder.log T clock.first (abandonedEntry span.data)
  have hpanics : ((s.setSpan index none).follow warned).trace.panicked = warned.trace.panicked :=
    rfl
  have habandon : s.abandon T clock.first index span =
      if span.live && !span.data.isFinished then (s.setSpan index none).follow warned
      else { next := s.setSpan index none } := rfl
  rw [s.drop_eq T clock index span warned rfl, habandon]
  by_cases hopen : (span.live && !span.data.isFinished) = true
  · cases hpanicked : warned.trace.panicked with
    | true => simp [hopen, hpanics, hpanicked]
    | false =>
      simp only [hopen, hpanics, hpanicked, if_true, Bool.not_false, Bool.and_self,
        Bool.false_eq_true, if_false]
      rfl
  · simp [hopen]

/-- Steps that nobody interrupts are holds. -/
theorem runHolds_steps (T : Transport σ) (s : Session σ) (steps : List (Clock × Step)) :
    s.runHolds T (steps.map fun entry => .whole entry.1 entry.2) = s.run T steps := by
  induction steps generalizing s with
  | nil => rfl
  | cons entry rest ih =>
    simp only [List.map_cons, runHolds, run, Hold.apply]
    rw [ih]

theorem abandon_follows (T : Transport σ) (s : Session σ) (clock : Readings) (index : Nat)
    (span : Span) (hlive : span.live = true) :
    (s.abandon T clock index span).Follows (s.recorder.run T
      (if span.data.isFinished then [] else [.log clock (abandonedEntry span.data)])) := by
  unfold abandon
  cases span.data.isFinished with
  | true =>
    simp only [hlive, Bool.not_true, Bool.and_false, Bool.false_eq_true, if_true, if_false]
    exact ⟨rfl, rfl⟩
  | false =>
    simp only [hlive, Bool.not_false, Bool.and_true, Bool.false_eq_true, if_true, if_false]
    exact action_follows T (s.setSpan index none) s.recorder
      (.log clock (abandonedEntry span.data))

theorem Hold.apply_follows (hold : Hold) (T : Transport σ) (s : Session σ) :
    (hold.apply T s).Follows (s.recorder.run T (hold.actions T s)) := by
  cases hold with
  | whole clock step => exact s.apply_follows T clock step
  | abandon clock index =>
    apply onSpan_follows T s index
    · exact fun span hlive => s.abandon_follows T clock index span hlive
    · intro span hinert
      simp only [Session.abandon, hinert]
      exact ⟨rfl, rfl⟩
  | retire clock data => exact action_follows T s s.recorder (.finishSpan clock data)

/-- Whatever the threads do with their handles, the recorder makes a run. -/
theorem runHolds_follows (T : Transport σ) (s : Session σ) (holds : List Hold) :
    (s.runHolds T holds).1.recorder = (s.recorder.run T (s.holdActions T holds)).next ∧
      (s.runHolds T holds).2 = (s.recorder.run T (s.holdActions T holds)).trace := by
  induction holds generalizing s with
  | nil => exact ⟨rfl, rfl⟩
  | cons hold rest ih =>
    obtain ⟨hnext, htrace⟩ := hold.apply_follows T s
    obtain ⟨hlast, hlater⟩ := ih (hold.apply T s).next
    rw [hnext] at hlast hlater
    simp only [runHolds, holdActions, Recorder.run_append]
    rw [hlast, hlater, htrace]
    exact ⟨rfl, rfl⟩

/-- Only the step that disables does. -/
theorem Hold.disable_mem_actions (hold : Hold) (T : Transport σ) (s : Session σ) :
    Recorder.Action.disable ∈ hold.actions T s ↔ ∃ clock, hold = .whole clock .disable := by
  cases hold with
  | whole clock step =>
    constructor
    · intro hmember
      have hstep : step = .disable := Classical.byContradiction fun hother =>
        s.disable_not_mem_actions T clock step hother hmember
      exact ⟨clock, congrArg _ hstep⟩
    · rintro ⟨_, hstep⟩
      cases hstep
      exact List.mem_singleton_self _
  | abandon clock index =>
    have hkept := s.disable_not_mem_onLive index
      (fun span => if span.data.isFinished then [] else [.log clock (abandonedEntry span.data)])
      fun span => by cases span.data.isFinished <;> simp
    exact ⟨fun hmember => absurd hmember hkept, fun ⟨_, hstep⟩ => by cases hstep⟩
  | retire clock data =>
    exact ⟨fun hmember => by simp [actions] at hmember, fun ⟨_, hstep⟩ => by cases hstep⟩

theorem disable_mem_holdActions (T : Transport σ) (s : Session σ) (holds : List Hold) :
    Recorder.Action.disable ∈ s.holdActions T holds ↔
      ∃ clock, Hold.whole clock .disable ∈ holds := by
  induction holds generalizing s with
  | nil => simp [holdActions]
  | cons hold rest ih =>
    simp only [holdActions, List.mem_append, List.mem_cons, hold.disable_mem_actions T s,
      ih (hold.apply T s).next, exists_or, eq_comm]

end Session

end Telemetry
