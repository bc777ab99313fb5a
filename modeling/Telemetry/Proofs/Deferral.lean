import Telemetry.Proofs.Named

/-!
When a recorder learns who reports makes no difference to what it reports. Two sessions
that do the same things, but for the places at which they name the recorder, are one and
the same session once both are named, and they are equal as soon as a flush has been
attempted.
-/

namespace Telemetry

attribute [ext] Session

namespace Session

variable {σ : Type}

def named (s : Session σ) (identity : Identity) : Session σ :=
  { s with recorder := s.recorder.named identity }

/-! ## Holds -/

section

variable {identity : Identity}

/-- Whether a hold asks to name the recorder. -/
def Hold.names : Hold → Bool
  | .whole _ (.setIdentity _ _) => true
  | _ => false

/-- What is done apart from naming the recorder. -/
def operations (holds : List Hold) : List Hold :=
  holds.filter (!·.names)

theorem Hold.eq_of_names {hold : Hold} (hnames : hold.names = true) :
    ∃ clock groupName accessToken, hold = .whole clock (.setIdentity groupName accessToken) := by
  cases hold with
  | whole clock step =>
    cases step with
    | setIdentity groupName accessToken => exact ⟨clock, groupName, accessToken, rfl⟩
    | _ => cases hnames
  | abandon clock index => cases hnames
  | retire clock data => cases hnames

theorem dropActions_named (T : Transport σ) (s : Session σ) (clock : Clock) (span : Span)
    (hexpects : s.recorder.Expects identity)
    (hcalm : s.recorder.identity = some identity ∨
      Recorder.attempts T s.recorder (s.dropActions T clock span) = []) :
    (s.named identity).dropActions T clock span = s.dropActions T clock span := by
  let entry := abandonedEntry span.data
  unfold dropActions at hcalm ⊢
  cases hfinished : span.data.isFinished with
  | true => rfl
  | false =>
    simp only [hfinished, Bool.false_eq_true, if_false] at hcalm ⊢
    have hfirst : s.recorder.identity = some identity ∨
        (Recorder.Action.log clock.first entry).attempt? s.recorder = none := by
      refine hcalm.imp_right fun hquiet => ?_
      split at hquiet
      · exact ((Recorder.attempts_cons_eq_nil ..).mp hquiet).1
      · exact ((Recorder.attempts_cons_eq_nil ..).mp hquiet).1
    have htrace : ((s.named identity).recorder.log T clock.first entry).trace =
        (s.recorder.log T clock.first entry).trace :=
      (congrArg Recorder.Turn.trace
        (Recorder.log_named T s.recorder clock.first entry hexpects hfirst)).trans rfl
    rw [htrace]

theorem Hold.actions_named (hold : Hold) (T : Transport σ) (s : Session σ)
    (hexpects : s.recorder.Expects identity)
    (hcalm : s.recorder.identity = some identity ∨
      Recorder.attempts T s.recorder (hold.actions T s) = []) :
    hold.actions T (s.named identity) = hold.actions T s := by
  cases hold with
  | whole clock step =>
    cases step with
    | dropSpan index =>
      have hsame : (s.named identity).span? index = s.span? index := rfl
      simp only [Hold.actions, Session.actions, onLive, hsame] at hcalm ⊢
      cases hspan : s.span? index with
      | none => rfl
      | some span =>
        cases hlive : span.live with
        | false => simp only [hlive, Bool.false_eq_true, if_false]
        | true =>
          simp only [hspan, hlive, if_true] at hcalm ⊢
          exact s.dropActions_named T clock span hexpects hcalm
    | _ => rfl
  | abandon clock index => rfl
  | retire clock data => rfl

theorem edit_spans_named (s : Session σ) (index : Nat) (f : Span → Span) :
    ((s.named identity).edit index f).next.spans = (s.edit index f).next.spans := by
  have hsame : (s.named identity).span? index = s.span? index := rfl
  unfold edit
  rw [hsame]
  cases s.span? index with
  | none => rfl
  | some span => rfl

theorem onSpan_spans_named (s : Session σ) (index : Nat) (f g : Span → Turn σ)
    (hspans : ∀ span, (f span).next.spans = (g span).next.spans) :
    ((s.named identity).onSpan index f).next.spans = (s.onSpan index g).next.spans := by
  have hsame : (s.named identity).span? index = s.span? index := rfl
  unfold onSpan
  rw [hsame]
  cases s.span? index with
  | none => rfl
  | some span => exact hspans span

theorem setIdentity_spans (T : Transport σ) (s : Session σ) (clock : Clock)
    (groupName accessToken : String) :
    (s.apply T clock (.setIdentity groupName accessToken)).next.spans = s.spans := by
  simp only [apply]
  cases s.recorder.setIdentity groupName accessToken with
  | ok turn => rfl
  | error refusal => rfl

/-- What becomes of the handles does not depend on who reports. -/
theorem Hold.spans_named (hold : Hold) (T : Transport σ) (s : Session σ) :
    (hold.apply T (s.named identity)).next.spans = (hold.apply T s).next.spans := by
  cases hold with
  | whole clock step =>
    cases step with
    | setIdentity groupName accessToken =>
      exact ((s.named identity).setIdentity_spans T clock groupName accessToken).trans
        (s.setIdentity_spans T clock groupName accessToken).symm
    | setOperation index name => exact s.edit_spans_named index _
    | addAttribute index key value => exact s.edit_spans_named index _
    | addJoinId index key value => exact s.edit_spans_named index _
    | setEndUserId index value => exact s.edit_spans_named index _
    | setParent index parent =>
      have hsame : (s.named identity).span? parent = s.span? parent := rfl
      simp only [Hold.apply, Session.apply, hsame]
      cases s.span? parent with
      | none => rfl
      | some parent => exact s.edit_spans_named index _
    | spanLog index level message payload =>
      apply s.onSpan_spans_named index
      intro span
      unfold logOn
      cases span.live with
      | true => rfl
      | false => rfl
    | finishSpan index =>
      apply s.onSpan_spans_named index
      intro span
      have hdata : ((s.named identity).recorder.finishSpan T clock.first span.data).1 =
          (s.recorder.finishSpan T clock.first span.data).1 :=
        s.recorder.finishSpan_data T clock.first span.data
      unfold finish
      cases span.live with
      | true => exact congrArg (fun data => s.spans.set index (some ⟨true, data⟩)) hdata
      | false => rfl
    | dropSpan index =>
      apply s.onSpan_spans_named index
      intro span
      exact ((s.named identity).drop_spans T clock index span).trans
        (s.drop_spans T clock index span).symm
    | _ => rfl
  | abandon clock index =>
    apply s.onSpan_spans_named index
    intro span
    exact ((s.named identity).abandon_spans T clock index span).trans
      (s.abandon_spans T clock index span).symm
  | retire clock data => rfl

end

/-! ## Sessions -/

variable {identity : Identity}

theorem Hold.cleared_apply (hold : Hold) (T : Transport σ) (s : Session σ)
    (hcleared : s.recorder.Cleared) : (hold.apply T s).next.recorder.Cleared := by
  rw [(hold.apply_follows T s).1]
  exact s.recorder.cleared_run T _ hcleared

theorem Hold.identity_apply (hold : Hold) (T : Transport σ) (s : Session σ)
    (hknown : s.recorder.identity = some identity) :
    (hold.apply T s).next.recorder.identity = some identity := by
  rw [(hold.apply_follows T s).1]
  exact Recorder.identity_run T s.recorder _ identity hknown

theorem Hold.apply_named (hold : Hold) (T : Transport σ) (s : Session σ)
    (hexpects : (hold.apply T s).next.recorder.Expects identity)
    (hcleared : s.recorder.Cleared)
    (hcalm : s.recorder.identity = some identity ∨
      Recorder.attempts T s.recorder (hold.actions T s) = []) :
    (hold.apply T (s.named identity)).next = (hold.apply T s).next.named identity ∧
      (s.recorder.identity = some identity →
        (hold.apply T (s.named identity)).trace = (hold.apply T s).trace) := by
  obtain ⟨hnext, htrace⟩ := hold.apply_follows T s
  obtain ⟨hnext', htrace'⟩ := hold.apply_follows T (s.named identity)
  rw [hnext] at hexpects
  have hfirst := Recorder.expects_of_run T s.recorder _ hexpects
  obtain ⟨hrecorder, _, hsame⟩ :=
    Recorder.run_named T s.recorder (hold.actions T s) hexpects hcleared hcalm
  rw [hold.actions_named T s hfirst hcalm] at hnext' htrace'
  refine ⟨?_, fun hknown => htrace'.trans ((hsame hknown).trans htrace.symm)⟩
  apply Session.ext
  · exact hnext'.trans (hrecorder.trans (congrArg (Recorder.named · identity) hnext.symm))
  · exact hold.spans_named T s

/-- Sessions go the same way whether they were named before or not, as long as no flush is
attempted before somebody is known. -/
theorem runHolds_named (T : Transport σ) (s : Session σ) (holds : List Hold)
    (hexpects : (s.runHolds T holds).1.recorder.Expects identity) (hcleared : s.recorder.Cleared)
    (hcalm : s.recorder.identity = some identity ∨
      Recorder.attempts T s.recorder (s.holdActions T holds) = []) :
    ((s.named identity).runHolds T holds).1 = (s.runHolds T holds).1.named identity ∧
      (s.named identity).holdActions T holds = s.holdActions T holds ∧
      (s.recorder.identity = some identity →
        ((s.named identity).runHolds T holds).2 = (s.runHolds T holds).2) := by
  induction holds generalizing s with
  | nil => exact ⟨rfl, rfl, fun _ => rfl⟩
  | cons hold rest ih =>
    have hrest : (hold.apply T s).next.recorder.Expects identity := by
      rw [runHolds, (runHolds_follows T (hold.apply T s).next rest).1] at hexpects
      exact Recorder.expects_of_run T _ _ hexpects
    have hfirst := hrest
    rw [(hold.apply_follows T s).1] at hfirst
    simp only [holdActions, Recorder.attempts_append, List.append_eq_nil_iff,
      ← (hold.apply_follows T s).1] at hcalm
    have hnow := hcalm.imp_right And.left
    have hlater := hcalm.imp (hold.identity_apply T s) And.right
    obtain ⟨hnext, htrace⟩ := hold.apply_named T s hrest hcleared hnow
    obtain ⟨hlast, hactions, hsilence⟩ :=
      ih (hold.apply T s).next hexpects (hold.cleared_apply T s hcleared) hlater
    have hsame := hold.actions_named T s (Recorder.expects_of_run T _ _ hfirst) hnow
    simp only [runHolds, holdActions, hnext, hsame, hactions]
    refine ⟨hlast, trivial, fun hknown => ?_⟩
    rw [htrace hknown, hsilence (hold.identity_apply T s hknown)]

/-- A session that is named goes on like one that was named all the time, and is the same
after an attempt at a flush. -/
theorem runHolds_known (T : Transport σ) (s : Session σ) (holds : List Hold)
    (hknown : s.recorder.identity = some identity) (hcleared : s.recorder.Cleared) :
    Recorder.attempts T (s.named identity).recorder ((s.named identity).holdActions T holds) =
        Recorder.attempts T s.recorder (s.holdActions T holds) ∧
      ((s.named identity).runHolds T holds).2 = (s.runHolds T holds).2 ∧
      ((s.named identity).runHolds T holds).1 = (s.runHolds T holds).1.named identity ∧
      (Recorder.attempts T s.recorder (s.holdActions T holds) ≠ [] →
        (s.runHolds T holds).1.named identity = (s.runHolds T holds).1) := by
  have hrun := (s.runHolds_follows T holds).1
  have hexpects : (s.runHolds T holds).1.recorder.Expects identity := by
    rw [hrun]
    intro known hlast
    have hsame := Recorder.identity_run T s.recorder (s.holdActions T holds) identity hknown
    exact Option.some.inj (hlast.symm.trans hsame)
  obtain ⟨hlast, hactions, htrace⟩ := s.runHolds_named T holds hexpects hcleared (Or.inl hknown)
  rw [hrun] at hexpects
  have hattempts := (Recorder.run_named T s.recorder (s.holdActions T holds) hexpects hcleared
    (Or.inl hknown)).2.1
  refine ⟨by rw [hactions]; exact hattempts, htrace hknown, hlast, fun hattempted => ?_⟩
  apply Session.ext
  · have hnamed := Recorder.named_of_attempts T s.recorder (s.holdActions T holds) hknown hcleared
      hattempted
    rw [← hrun] at hnamed
    exact hnamed
  · rfl

/-- Once somebody is known it does not matter who asks to name the recorder. -/
theorem setIdentity_known (T : Transport σ) (s : Session σ) (clock : Clock)
    (groupName accessToken : String) (hknown : s.recorder.identity = some identity) :
    (s.apply T clock (.setIdentity groupName accessToken)).next = s ∧
      (s.apply T clock (.setIdentity groupName accessToken)).trace = [] := by
  obtain ⟨hnext, htrace⟩ := s.apply_follows T clock (.setIdentity groupName accessToken)
  have hset := Recorder.setIdentity_known T s.recorder groupName accessToken hknown
  simp only [actions, Recorder.run, hset] at hnext htrace
  exact ⟨Session.ext hnext (s.setIdentity_spans T clock groupName accessToken), htrace⟩

theorem runHolds_operations (T : Transport σ) (s : Session σ) (holds : List Hold)
    (hknown : s.recorder.identity = some identity) :
    s.runHolds T (operations holds) = s.runHolds T holds := by
  induction holds generalizing s with
  | nil => rfl
  | cons hold rest ih =>
    cases hnames : hold.names with
    | true =>
      obtain ⟨clock, groupName, accessToken, rfl⟩ := Hold.eq_of_names hnames
      obtain ⟨hnext, htrace⟩ := s.setIdentity_known T clock groupName accessToken hknown
      simp only [runHolds, Hold.apply, hnext, htrace, List.nil_append]
      exact ih s hknown
    | false =>
      have hkept : operations (hold :: rest) = hold :: operations rest :=
        List.filter_cons_of_pos (by simp [hnames])
      rw [hkept]
      simp only [runHolds]
      rw [ih (hold.apply T s).next (hold.identity_apply T s hknown)]

end Session

namespace Recorder

variable {σ : Type}

/-- New recorders that are named alike are alike. -/
theorem create_named (T : Transport σ) (carrier : σ) (options : Options) (processId : UInt32)
    (draws : List UInt64) (now : Int) (turn : Turn σ)
    (hcreate : create T carrier options processId draws now = .ok turn) (identity : Identity) :
    turn.next.named identity = {
      identity := some identity
      startMicros := now
      logs := .empty options.maxLogRecords
      spans := .empty options.maxSpanRecords
      reportStartMicros := now
      nextFlushMicros := laterBy now options.reportingPeriod.micros
      periodMicros := options.reportingPeriod.micros
      carrier
      draws
      processId
      maxPayloadDepth := options.maxPayloadDepth
      guarantee := options.delivery
      debug := options.debug } := by
  rw [create_next T carrier options processId draws now turn hcreate]
  rfl

/-- Who reports follows from the names alone. -/
theorem identity_of_names (T : Transport σ) (carrier : σ) (options : Options)
    (processId : UInt32) (draws : List UInt64) (now : Int) (turn : Turn σ)
    (hcreate : create T carrier options processId draws now = .ok turn)
    (actions : List Action) (names : String × String)
    (hnames : (run T turn.next actions).next.names? = some names) :
    (run T turn.next actions).next.identity =
      some ⟨names.2, names.1, Identity.deriveGuid processId names.2 names.1, now⟩ := by
  have hknown := identity_of_firstNames T carrier options processId draws now turn hcreate actions
  obtain ⟨hprocess, hstart, _⟩ :=
    create_identity T carrier options processId draws now turn hcreate
  unfold names? at hnames
  rw [hknown, Option.map_map] at hnames
  obtain ⟨first, hfirst, hsame⟩ := Option.map_eq_some_iff.mp hnames
  have hnamed : first = names := hsame
  rw [hknown, hfirst, hnamed]
  simp only [Option.map_some, identityOf, hprocess, hstart]

end Recorder

namespace Session

variable {σ : Type}

/-- Up to the first flush after somebody is known, a session is the one in which the
recorder was named when it was made and nobody asked again. -/
theorem runHolds_deferred (T : Transport σ) (carrier : σ) (options : Options)
    (processId : UInt32) (draws : List UInt64) (now : Int) (turn : Recorder.Turn σ)
    (hcreate : Recorder.create T carrier options processId draws now = .ok turn)
    (holds : List Hold)
    (hcalm : Recorder.attempts T turn.next (holdActions T ⟨turn.next, []⟩ holds) = [])
    (identity : Identity)
    (hknown : (runHolds T ⟨turn.next, []⟩ holds).1.recorder.identity = some identity) :
    (runHolds T ⟨turn.next, []⟩ holds).1.named identity =
      (runHolds T (named ⟨turn.next, []⟩ identity) (operations holds)).1 := by
  let opened : Session σ := ⟨turn.next, []⟩
  have hcleared : opened.recorder.Cleared := Recorder.cleared_of_enabled
    (Recorder.create_fresh T carrier options processId draws now turn hcreate).enabled
  have hexpects : (opened.runHolds T holds).1.recorder.Expects identity :=
    fun _ hother => Option.some.inj (hother.symm.trans hknown)
  rw [runHolds_operations T (opened.named identity) holds rfl]
  exact (opened.runHolds_named T holds hexpects hcleared (Or.inr hcalm)).1.symm

theorem known_of_names (T : Transport σ) (carrier : σ) (options : Options) (processId : UInt32)
    (draws : List UInt64) (now : Int) (turn : Recorder.Turn σ)
    (hcreate : Recorder.create T carrier options processId draws now = .ok turn)
    (holds : List Hold) (names : String × String)
    (hnames : (runHolds T ⟨turn.next, []⟩ holds).1.recorder.names? = some names) :
    (runHolds T ⟨turn.next, []⟩ holds).1.recorder.identity =
        some ⟨names.2, names.1, Identity.deriveGuid processId names.2 names.1, now⟩ ∧
      (runHolds T ⟨turn.next, []⟩ holds).1.recorder.Cleared := by
  have hcleared := Recorder.cleared_of_enabled
    (Recorder.create_fresh T carrier options processId draws now turn hcreate).enabled
  rw [(runHolds_follows T ⟨turn.next, []⟩ holds).1] at hnames ⊢
  exact ⟨Recorder.identity_of_names T carrier options processId draws now turn hcreate _ names
    hnames, Recorder.cleared_run T turn.next _ hcleared⟩

/-- It does not matter when a recorder is named. Two sessions do the same things on
recorders that differ at most in the names they are made with, and may be named at any
points; both come to the same names, and neither attempts a flush before it has them. Then
from there on both attempt the same flushes and show the same to the outside, every report
and its token included, and they are equal after any attempt, whatever came of it. -/
theorem late_identity (T : Transport σ) (carrier : σ) (options : Options)
    (group group' token token' : Option String) (processId : UInt32) (draws : List UInt64)
    (now : Int) (turn turn' : Recorder.Turn σ)
    (hcreate : Recorder.create T carrier { options with groupName := group, accessToken := token }
      processId draws now = .ok turn)
    (hcreate' : Recorder.create T carrier
      { options with groupName := group', accessToken := token' } processId draws now = .ok turn')
    (holds holds' : List Hold) (hoperations : operations holds = operations holds')
    (hcalm : Recorder.attempts T turn.next (holdActions T ⟨turn.next, []⟩ holds) = [])
    (hcalm' : Recorder.attempts T turn'.next (holdActions T ⟨turn'.next, []⟩ holds') = [])
    (names : String × String)
    (hnames : (runHolds T ⟨turn.next, []⟩ holds).1.recorder.names? = some names)
    (hnames' : (runHolds T ⟨turn'.next, []⟩ holds').1.recorder.names? = some names)
    (later : List Hold) :
    let first := (runHolds T ⟨turn.next, []⟩ holds).1
    let first' := (runHolds T ⟨turn'.next, []⟩ holds').1
    let last := first.runHolds T later
    let last' := first'.runHolds T later
    let attempts := Recorder.attempts T first.recorder (first.holdActions T later)
    attempts = Recorder.attempts T first'.recorder (first'.holdActions T later) ∧
      last.2 = last'.2 ∧ (attempts ≠ [] → last.1 = last'.1) := by
  intro first first' last last' attempts
  let identity : Identity := ⟨names.2, names.1, Identity.deriveGuid processId names.2 names.1, now⟩
  obtain ⟨hknown, hcleared⟩ :
      first.recorder.identity = some identity ∧ first.recorder.Cleared :=
    known_of_names T carrier _ processId draws now turn hcreate holds names hnames
  obtain ⟨hknown', hcleared'⟩ :
      first'.recorder.identity = some identity ∧ first'.recorder.Cleared :=
    known_of_names T carrier _ processId draws now turn' hcreate' holds' names hnames'
  have hopened : named ⟨turn.next, []⟩ identity = named ⟨turn'.next, []⟩ identity := by
    have hnext := Recorder.create_named T carrier _ processId draws now turn hcreate identity
    have hnext' := Recorder.create_named T carrier _ processId draws now turn' hcreate' identity
    exact Session.ext (hnext.trans hnext'.symm) rfl
  have hagree : first.named identity = first'.named identity := by
    have hfirst := runHolds_deferred T carrier _ processId draws now turn hcreate holds hcalm
      identity hknown
    have hfirst' := runHolds_deferred T carrier _ processId draws now turn' hcreate' holds' hcalm'
      identity hknown'
    rw [hopened, hoperations] at hfirst
    exact hfirst.trans hfirst'.symm
  obtain ⟨hattempts, htrace, hlast, hsettled⟩ :=
    first.runHolds_known T later hknown hcleared
  obtain ⟨hattempts', htrace', hlast', hsettled'⟩ :=
    first'.runHolds_known T later hknown' hcleared'
  rw [hagree] at hattempts htrace hlast
  have hsame := hattempts.symm.trans hattempts'
  refine ⟨hsame, htrace.symm.trans htrace', fun hattempted => ?_⟩
  calc last.1
      _ = last.1.named identity := (hsettled hattempted).symm
      _ = last'.1.named identity := hlast.symm.trans hlast'
      _ = last'.1 := hsettled' fun hnone => hattempted (hsame.trans hnone)

def Naming.options : Options where
  maxLogRecords := 2
  maxSpanRecords := 1
  delivery := .retainUntilAcknowledged

/-- The third log takes the place of another one. -/
def Naming.work : List Hold :=
  [.whole (.all 1) (.log { level := .info, message := "one" }),
    .whole (.all 2) (.startSpan "span"),
    .whole (.all 3) (.log { level := .warn, message := "two" }),
    .whole (.all 4) (.finishSpan 0),
    .whole (.all 5) (.log { level := .error, message := "three" })]

/-- The same work, with the recorder named at this place. -/
def Naming.holds (place : Nat) : List Hold :=
  Naming.work.take place ++
    .whole (.all place) (.setIdentity "group" "token") :: Naming.work.drop place

/-- The first report comes back and goes out once more. -/
def Naming.later : List Hold :=
  [.whole (.all 6) .flush, .whole (.all 7) .flush]

/-- Before the reports the two sessions hold logs with different guids. -/
theorem late_identity_naming :
    ∃ turn, Recorder.create Recording.transport Recorder.Outage.carrier Naming.options 7 [1] 0 =
        .ok turn ∧
      let first := (runHolds Recording.transport ⟨turn.next, []⟩ (Naming.holds 0)).1
      let first' := (runHolds Recording.transport ⟨turn.next, []⟩ (Naming.holds 4)).1
      let last := first.runHolds Recording.transport Naming.later
      let last' := first'.runHolds Recording.transport Naming.later
      first.recorder.names? = some ("group", "token") ∧
      first'.recorder.names? = some ("group", "token") ∧
      first.recorder.logs.items.map (·.runtimeGuid.isEmpty) = [false, false] ∧
      first'.recorder.logs.items.map (·.runtimeGuid.isEmpty) = [false, true] ∧
      last.2.deliveries.length = 2 ∧
      last.2 = last'.2 ∧ last.1 = last'.1 := by
  refine ⟨_, rfl, by decide +kernel, by decide +kernel, by decide +kernel, by decide +kernel,
    by decide +kernel, ?_⟩
  obtain ⟨_, htrace, hlast⟩ := late_identity Recording.transport Recorder.Outage.carrier
    Naming.options none none none none 7 [1] 0 _ _ rfl rfl (Naming.holds 0) (Naming.holds 4) rfl
    (by decide +kernel) (by decide +kernel) ("group", "token") (by decide +kernel)
    (by decide +kernel) Naming.later
  exact ⟨htrace, hlast (by decide +kernel)⟩

end Session

end Telemetry
