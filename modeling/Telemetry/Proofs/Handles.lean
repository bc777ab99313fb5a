import Telemetry.Proofs.Calls
import Telemetry.Proofs.Disable

/-!
What holds do to handles. A hold makes a call on one handle, lets one go, starts a new one
or leaves them all alone; so the span behind a handle is what the calls on that handle have
made of it, whatever else was done between them and by whom.
-/

namespace Telemetry

namespace Span

theorem setParent_eq (span parent : Span) :
    span.setParent parent = span.change (Call.setParent parent).write := by
  unfold setParent addAttribute change
  cases hlive : span.live with
  | true => simp [Call.write]
  | false => simp [hlive]

/-- The span after calls, the first one first. -/
def after (span : Span) (calls : List Call) : Span :=
  calls.foldl (fun span call => span.change call.write) span

theorem after_of_live (span : Span) (calls : List Call) (hlive : span.live = true) :
    span.after calls = ⟨true, span.data.after calls⟩ := by
  induction calls generalizing span with
  | nil =>
    obtain ⟨live, data⟩ := span
    cases hlive
    rfl
  | cons call rest ih =>
    have hchange : span.change call.write = ⟨true, call.write span.data⟩ := by
      unfold change
      rw [hlive]
      rfl
    have hrest := ih (span.change call.write) (by rw [hchange])
    rw [hchange] at hrest
    exact (congrArg (fun span : Span => span.after rest) hchange).trans hrest

end Span

namespace Session

variable {σ : Type}

/-- The handle that a hold makes a call on, and the call. A finish that comes too late is
none. -/
def Hold.call? (hold : Hold) (s : Session σ) : Option (Nat × Span.Call) :=
  match hold with
  | .whole _ (.setOperation index name) => some (index, .setOperation name)
  | .whole _ (.addAttribute index key value) => some (index, .addAttribute key value)
  | .whole _ (.addJoinId index key value) => some (index, .addJoinId key value)
  | .whole _ (.setEndUserId index value) => some (index, .setEndUserId value)
  | .whole _ (.setParent index parent) =>
    (s.span? parent).map fun parent => (index, .setParent parent)
  | .whole _ (.spanLog index level _ _) => some (index, .log level)
  | .whole clock (.finishSpan index) =>
    if s.recorder.enabled then some (index, .finish clock.first.stamp) else none
  | _ => none

def Hold.callsOn (hold : Hold) (s : Session σ) (index : Nat) : List Span.Call :=
  match hold.call? s with
  | some (target, call) => if target = index then [call] else []
  | none => []

/-- The calls that are made on a handle. -/
def calls (T : Transport σ) (s : Session σ) (index : Nat) : List Hold → List Span.Call
  | [] => []
  | hold :: rest => hold.callsOn s index ++ calls T (hold.apply T s).next index rest

theorem span?_edit (s : Session σ) (target index : Nat) (f : Span → Span) :
    (s.edit target f).next.span? index =
      if target = index then (s.span? index).map f else s.span? index := by
  unfold edit
  by_cases hsame : target = index
  · subst hsame
    cases hspan : s.span? target with
    | none => simp [hspan]
    | some span =>
      have hplace : s.spans[target]? = some (some span) := Option.join_eq_some_iff.mp hspan
      obtain ⟨htarget, _⟩ := List.getElem?_eq_some_iff.mp hplace
      simp [span?, setSpan, htarget]
  · cases s.span? target with
    | none => simp [hsame]
    | some span => simp [span?, setSpan, List.getElem?_set_ne hsame, hsame]

theorem length_edit (s : Session σ) (index : Nat) (f : Span → Span) :
    (s.edit index f).next.spans.length = s.spans.length := by
  unfold edit
  cases s.span? index with
  | none => rfl
  | some span => simp [setSpan]

theorem edit_of_some {s : Session σ} {index : Nat} {span : Span}
    (hspan : s.span? index = some span) (f : Span → Span) :
    s.edit index f = { next := s.setSpan index (some (f span)) } := by
  unfold edit
  rw [hspan]

/-- Putting a span where it is changes nothing. -/
theorem setSpan_self {s : Session σ} {index : Nat} {span : Span}
    (hspan : s.span? index = some span) : s.setSpan index (some span) = s := by
  have hplace : s.spans[index]? = some (some span) := Option.join_eq_some_iff.mp hspan
  obtain ⟨hindex, hheld⟩ := List.getElem?_eq_some_iff.mp hplace
  have hsame : s.spans.set index (some span) = s.spans := by
    rw [← hheld]
    exact List.set_getElem_self hindex
  unfold setSpan
  rw [hsame]

/-- The ways in which a hold changes the handles. -/
inductive Hold.Handling (hold : Hold) (s : Session σ) : List (Option Span) → Prop
  | nothing (hnone : hold.call? s = none) : Handling hold s s.spans
  | call (index : Nat) (call : Span.Call) (hcall : hold.call? s = some (index, call)) :
      Handling hold s (s.edit index (·.change call.write)).next.spans
  | start (span : Span) (hnone : hold.call? s = none) : Handling hold s (s.spans ++ [some span])
  | letGo (index : Nat) (hnone : hold.call? s = none) : Handling hold s (s.spans.set index none)

/-- Logging through a span changes nothing but what it notes. -/
theorem handling_spanLog (T : Transport σ) (s : Session σ) (clock : Readings) (index : Nat)
    (level : Level) (message : String) (payload : Option Json) :
    (s.onSpan index fun span => s.logOn T clock index span level message payload).next.spans =
      (s.edit index (·.noteLevel level)).next.spans := by
  unfold onSpan
  cases hspan : s.span? index with
  | none => simp [edit, hspan]
  | some span =>
    rw [edit_of_some hspan]
    simp only [logOn]
    cases hlive : span.live with
    | true => rfl
    | false =>
      have hinert : span.noteLevel level = span := by
        simp [Span.noteLevel, Span.change, hlive]
      rw [hinert, setSpan_self hspan]
      rfl

theorem handling_finishSpan (T : Transport σ) (s : Session σ) (clock : Readings) (index : Nat) :
    (s.onSpan index fun span => s.finish T clock index span).next.spans =
      if s.recorder.enabled then
        (s.edit index (·.change (Span.Call.finish clock.stamp).write)).next.spans
      else s.spans := by
  unfold onSpan
  cases hspan : s.span? index with
  | none => simp [edit, hspan]
  | some span =>
    rw [edit_of_some hspan]
    simp only [finish, Span.change]
    by_cases hlive : span.live = true
    · rw [if_pos hlive, if_pos hlive]
      cases hon : s.recorder.enabled with
      | true =>
        rw [s.recorder.finishSpan_enabled T clock span.data hon]
        rfl
      | false =>
        rw [s.recorder.finishSpan_disabled T clock span.data hon]
        exact congrArg Session.spans (setSpan_self hspan)
    · rw [if_neg hlive, if_neg hlive, setSpan_self hspan]
      split
      · rfl
      · rfl

theorem Hold.handling (hold : Hold) (T : Transport σ) (s : Session σ) :
    hold.Handling s (hold.apply T s).next.spans := by
  cases hold with
  | whole clock step =>
    cases step with
    | log entry => exact Handling.nothing rfl
    | flush => exact Handling.nothing rfl
    | disable => exact Handling.nothing rfl
    | shutdown => exact Handling.nothing rfl
    | setIdentity groupName accessToken =>
      simp only [Hold.apply, Session.apply]
      cases s.recorder.setIdentity groupName accessToken with
      | ok turn => exact Handling.nothing rfl
      | error refusal => exact Handling.nothing rfl
    | startSpan guid => exact Handling.start _ rfl
    | setOperation index name => exact Handling.call index (.setOperation name) rfl
    | addAttribute index key value => exact Handling.call index (.addAttribute key value) rfl
    | addJoinId index key value => exact Handling.call index (.addJoinId key value) rfl
    | setEndUserId index value => exact Handling.call index (.setEndUserId value) rfl
    | setParent index parent =>
      simp only [Hold.apply, Session.apply]
      cases hparent : s.span? parent with
      | none => exact Handling.nothing (by simp [call?, hparent])
      | some parent =>
        simp only [Span.setParent_eq]
        exact Handling.call index (.setParent parent) (by simp [call?, hparent])
    | spanLog index level message payload =>
      simp only [Hold.apply, Session.apply, handling_spanLog]
      exact Handling.call index (.log level) rfl
    | finishSpan index =>
      simp only [Hold.apply, Session.apply, handling_finishSpan]
      cases hon : s.recorder.enabled with
      | true => exact Handling.call index (.finish clock.first.stamp) (by simp [call?, hon])
      | false => exact Handling.nothing (by simp [call?, hon])
    | dropSpan index =>
      simp only [Hold.apply, Session.apply, onSpan]
      cases s.span? index with
      | none => exact Handling.nothing rfl
      | some span =>
        simp only [drop_spans]
        exact Handling.letGo index rfl
  | abandon clock index =>
    simp only [Hold.apply, onSpan]
    cases s.span? index with
    | none => exact Handling.nothing rfl
    | some span =>
      simp only [abandon_spans]
      exact Handling.letGo index rfl
  | retire clock data => exact Handling.nothing rfl

theorem Hold.length_apply (hold : Hold) (T : Transport σ) (s : Session σ) :
    s.spans.length ≤ (hold.apply T s).next.spans.length := by
  have hhandling := hold.handling T s
  generalize (hold.apply T s).next.spans = spans at hhandling ⊢
  cases hhandling with
  | nothing _ => exact Nat.le_refl _
  | call index call _ => exact Nat.le_of_eq (s.length_edit index _).symm
  | start span _ => simp
  | letGo index _ => simp

/-- A handle that is there after a hold was there before, and the call on it was made. -/
theorem Hold.span_apply (hold : Hold) (T : Transport σ) (s : Session σ) (index : Nat)
    (later : Span) (hindex : index < s.spans.length)
    (hlater : (hold.apply T s).next.span? index = some later) :
    ∃ span, s.span? index = some span ∧ later = span.after (hold.callsOn s index) := by
  have hhandling := hold.handling T s
  unfold span? at hlater
  generalize (hold.apply T s).next.spans = spans at hhandling hlater
  unfold callsOn
  cases hhandling with
  | nothing hnone =>
    rw [hnone]
    exact ⟨later, hlater, rfl⟩
  | call target call hcall =>
    have hedited := s.span?_edit target index (·.change call.write)
    rw [span?, hlater] at hedited
    rw [hcall]
    by_cases htarget : target = index
    · rw [if_pos htarget] at hedited
      obtain ⟨span, hspan, hchanged⟩ := Option.map_eq_some_iff.mp hedited.symm
      exact ⟨span, hspan, by simp [htarget, Span.after, hchanged]⟩
    · rw [if_neg htarget] at hedited
      exact ⟨later, hedited.symm, by simp [htarget, Span.after]⟩
  | start span hnone =>
    rw [hnone]
    rw [List.getElem?_append_left hindex] at hlater
    exact ⟨later, hlater, rfl⟩
  | letGo target hnone =>
    rw [hnone]
    by_cases htarget : target = index
    · simp [htarget, hindex] at hlater
    · rw [List.getElem?_set_ne htarget] at hlater
      exact ⟨later, hlater, rfl⟩

/-- The span behind a handle that is still there is what the calls on it have made of it. -/
theorem span_runHolds (T : Transport σ) (s : Session σ) (holds : List Hold) (index : Nat)
    (later : Span) (hindex : index < s.spans.length)
    (hlater : (s.runHolds T holds).1.span? index = some later) :
    ∃ span, s.span? index = some span ∧ later = span.after (s.calls T index holds) := by
  induction holds generalizing s with
  | nil => exact ⟨later, hlater, rfl⟩
  | cons hold rest ih =>
    have hnext := Nat.lt_of_lt_of_le hindex (hold.length_apply T s)
    obtain ⟨middle, hmiddle, hrest⟩ := ih (hold.apply T s).next hnext hlater
    obtain ⟨span, hspan, hfirst⟩ := hold.span_apply T s index middle hindex hmiddle
    refine ⟨span, hspan, ?_⟩
    rw [hrest, hfirst]
    exact List.foldl_append.symm

theorem holdActions_append (T : Transport σ) (s : Session σ) (first later : List Hold) :
    s.holdActions T (first ++ later) =
      s.holdActions T first ++ (s.runHolds T first).1.holdActions T later := by
  induction first generalizing s with
  | nil => rfl
  | cons hold rest ih => simp [runHolds, holdActions, ih]

/-- The life of a span: the session in which it was started while something was recorded,
and what everybody has done since. The session may hold any other spans, and so any span
may be a parent. -/
structure Lifetime (σ : Type) where
  origin : Session σ
  clock : Clock
  guid : String
  holds : List Hold
  recorded : origin.recorder.enabled = true

namespace Lifetime

def index (life : Lifetime σ) : Nat :=
  life.origin.spans.length

def born (life : Lifetime σ) (T : Transport σ) : Session σ :=
  (life.origin.apply T life.clock (.startSpan life.guid)).next

/-- The session as it is now. -/
def session (life : Lifetime σ) (T : Transport σ) : Session σ :=
  ((life.born T).runHolds T life.holds).1

/-- The calls that were made on the span. -/
def calls (life : Lifetime σ) (T : Transport σ) : List Span.Call :=
  (life.born T).calls T life.index life.holds

def data (life : Lifetime σ) (T : Transport σ) : SpanData :=
  SpanData.after { guid := life.guid, startMicros := life.clock.first.stamp } (life.calls T)

theorem spans_born (life : Lifetime σ) (T : Transport σ) :
    (life.born T).spans =
      life.origin.spans ++ [some (.start life.guid life.clock.first.stamp)] := by
  simp [born, apply, Recorder.startSpan, life.recorded]

/-- Whether nobody has let the handle go. -/
def held (life : Lifetime σ) (T : Transport σ) : Bool :=
  ((life.session T).span? life.index).isSome

/-- As long as its handle is there, a span is what the calls on it have made of it. -/
theorem span?_session (life : Lifetime σ) (T : Transport σ) (hheld : life.held T = true) :
    (life.session T).span? life.index = some ⟨true, life.data T⟩ := by
  obtain ⟨span, hspan⟩ := Option.isSome_iff_exists.mp hheld
  have hspans := life.spans_born T
  have hindex : life.index < (life.born T).spans.length := by simp [hspans, index]
  obtain ⟨first, hfirst, hlater⟩ :=
    (life.born T).span_runHolds T life.holds life.index span hindex hspan
  have hstart : first = .start life.guid life.clock.first.stamp := by
    simpa [span?, hspans, index, eq_comm] using hfirst
  rw [hspan, hlater, hstart]
  exact congrArg some (Span.after_of_live _ _ rfl)

end Lifetime

end Session

namespace RecordKind

variable {σ : Type}

open Recorder

theorem accepted_append (kind : RecordKind) (T : Transport σ) (r : Recorder σ)
    (first later : List Action) :
    kind.accepted T r (first ++ later) =
      kind.accepted T r first ++ kind.accepted T (run T r first).next later := by
  induction first generalizing r with
  | nil => rfl
  | cons action rest ih => simp [accepted, run, ih]

end RecordKind

end Telemetry
