import Telemetry.Proofs.Holding

/-!
What comes after a shutdown. Its flag keeps later shutdowns from doing anything, and
nothing else looks at it: records are taken in and flushes are made as before, by a
transport that has been closed. So the report of a shutdown is the last one only as long
as nothing is held.
-/

namespace Telemetry

namespace Recorder

variable {σ : Type}

/-! ## The flag -/

theorem shutDown_after (r : Recorder σ) (delivery : Delivery) (carrier : σ) :
    (r.after delivery carrier).shutDown = r.shutDown := by
  unfold after
  split
  · rfl
  · rfl

theorem Action.shutDown_taken (action : Action) (r : Recorder σ) :
    (action.taken r).shutDown = true ↔
      r.shutDown = true ∨ ∃ reading, action = .shutdown reading := by
  by_cases hshutdown : ∃ reading, action = .shutdown reading
  · obtain ⟨reading, rfl⟩ := hshutdown
    simp [taken]
  · -- `Taking` does not say which action raises the flag, so each is looked at.
    have hsame : (action.taken r).shutDown = r.shutDown := by
      cases action with
      | log clock entry =>
        simp only [taken]
        cases (log clock entry).record? r .log with
        | none => rfl
        | some record => rfl
      | finishSpan clock data =>
        simp only [taken]
        cases (finishSpan clock data).record? r .span with
        | none => rfl
        | some record => rfl
      | setIdentity groupName accessToken =>
        simp only [taken]
        cases hset : r.setIdentity groupName accessToken with
        | error refusal => rfl
        | ok turn =>
          rcases (setIdentity_cases r groupName accessToken turn hset).2 with
            ⟨_, _, hnext⟩ | ⟨_, identity, _, hnext⟩
          · simp [hnext]
          · simp [hnext]
      | flush now => rfl
      | shutdown now => exact absurd ⟨now, rfl⟩ hshutdown
      | disable => rfl
    simp [hsame, hshutdown]

theorem Action.shutDown_apply (action : Action) (T : Transport σ) (r : Recorder σ) :
    (action.apply T r).next.shutDown = true ↔
      r.shutDown = true ∨ ∃ reading, action = .shutdown reading := by
  rw [← action.shutDown_taken r]
  rcases action.apply_outcome T r with
    ⟨_, due, carrier, hnext⟩ | ⟨identity, now, carrier, _, _, hnext⟩
  · rw [hnext]
  · rw [hnext, shutDown_after]
    rfl

theorem shutDown_run (T : Transport σ) (r : Recorder σ) (actions : List Action) :
    (run T r actions).next.shutDown = true ↔
      r.shutDown = true ∨ ∃ reading, .shutdown reading ∈ actions := by
  induction actions generalizing r with
  | nil => simp [run]
  | cons action rest ih =>
    simp only [run, ih (action.apply T r).next, action.shutDown_apply T r, List.mem_cons,
      exists_or, or_assoc, @eq_comm _ (Action.shutdown _) action]

/-- The first shutdown closes the transport, unless that broke down in the last flush. -/
theorem carrier_shutdown (T : Transport σ) (r : Recorder σ) (now : Int)
    (hopen : r.shutDown = false) :
    let flushed := flush T { r with shutDown := true } now
    (r.shutdown T now).next.carrier =
      if flushed.trace.panicked then flushed.next.carrier else T.close flushed.next.carrier := by
  intro flushed
  rw [shutdown_first T r now hopen]
  dsimp only
  split
  · rfl
  · rfl

/-! ## What is silent -/

/-- The action attempts no flush, or one that finds nothing to report or nobody to
report for. -/
def Action.Quiet (action : Action) (r : Recorder σ) : Prop :=
  ∀ now identity, action.attempt? r = some now → ¬ (action.taken r).Ready identity

theorem Action.quiet_iff (action : Action) (T : Transport σ) (r : Recorder σ) :
    action.Quiet r ↔ (action.apply T r).trace.deliveries = [] := by
  rcases action.apply_cases T r with ⟨hnone, hsilent, _⟩ | ⟨now, _, hattempt, hsent, _⟩
  · simp [Quiet, hnone, hsilent]
  · rw [hsent]
    rcases flush_cases T (action.taken r) now with
      ⟨hidle, hflush⟩ | ⟨identity, _, hready, hdelivered, _⟩
    · simp [Quiet, hidle, hflush]
    · rw [hdelivered]
      constructor
      · intro hquiet
        exact absurd hready (hquiet now identity hattempt)
      · intro hnothing
        cases hnothing

/-- A run is silent if each of its actions is, where it stands. -/
theorem quiet_run_iff (T : Transport σ) (r : Recorder σ) (actions : List Action) :
    (∀ earlier action rest, actions = earlier ++ action :: rest →
      action.Quiet (run T r earlier).next) ↔ (run T r actions).trace.deliveries = [] := by
  induction actions generalizing r with
  | nil => simp [run]
  | cons first later ih =>
    have hlater := ih (first.apply T r).next
    simp only [run, Trace.deliveries_append, List.append_eq_nil_iff, ← first.quiet_iff T r,
      ← hlater]
    constructor
    · intro hquiet
      refine ⟨hquiet [] first later rfl, ?_⟩
      intro earlier action rest hsplit
      exact hquiet (first :: earlier) action rest (by rw [hsplit]; rfl)
    · intro hquiet earlier action rest hsplit
      cases earlier with
      | nil =>
        obtain ⟨rfl, rfl⟩ := List.cons.inj hsplit
        exact hquiet.1
      | cons head earlier =>
        obtain ⟨rfl, hrest⟩ := List.cons.inj hsplit
        exact hquiet.2 earlier action rest hrest

/-! ## What is held -/

/-- Nothing is held, whether or not anything is recorded. -/
def Bare (r : Recorder σ) : Prop :=
  r.logs.items = [] ∧ r.spans.items = []

/-- A flush leaves nothing behind if nothing was there, or if its report is settled. -/
theorem bare_flush (T : Transport σ) (r : Recorder σ) (now : Int) :
    (flush T r now).next.Bare ↔
      r.Bare ∨ ∃ delivery ∈ (flush T r now).trace.deliveries,
        delivery.isSettled r.guarantee = true := by
  rcases flush_cases T r now with ⟨_, hflush⟩ | ⟨identity, carrier, hready, hsent, hnext⟩
  · rw [hflush]
    by_cases hon : r.enabled = true
    · simp [hon, Bare, postponed]
    · simp [hon, Bare]
  · rw [hsent, hnext]
    cases hsettled : (r.delivery T identity now).isSettled r.guarantee with
    | true => simp [after, postponed, hsettled, Bare]
    | false => simp [after, postponed, hsettled, Bare]

/-- An action that adds nothing leaves a recorder bare, and so it is silent. -/
theorem Action.bare_apply (action : Action) (T : Transport σ) (r : Recorder σ)
    (hbare : r.Bare) (hnone : ∀ kind, action.record? r kind = none) :
    (action.apply T r).trace.deliveries = [] ∧ (action.apply T r).next.Bare := by
  have htaken : (action.taken r).Bare := by
    have htaking := action.taking r
    generalize action.taken r = recorded at htaking ⊢
    cases htaking with
    | nothing _ => exact hbare
    | log record hlog _ =>
      rw [hnone] at hlog
      cases hlog
    | span record _ hspan =>
      rw [hnone] at hspan
      cases hspan
    | identity _ _ identity _ _ _ => exact hbare
    | flag _ => exact hbare
    | off _ _ => exact ⟨rfl, rfl⟩
  rcases action.apply_outcome T r with ⟨hsilent, due, carrier, hnext⟩ | ⟨_, _, _, hready, _, _⟩
  · rw [hnext]
    exact ⟨hsilent, htaken⟩
  · exact absurd htaken hready.holds

theorem bare_run (T : Transport σ) (r : Recorder σ) (actions : List Action) (hbare : r.Bare)
    (hnone : ∀ kind : RecordKind, kind.accepted T r actions = []) :
    (run T r actions).trace.deliveries = [] ∧ (run T r actions).next.Bare := by
  induction actions generalizing r with
  | nil => exact ⟨rfl, hbare⟩
  | cons action rest ih =>
    have hfirst : ∀ kind, action.record? r kind = none := by
      intro kind
      simpa using (List.append_eq_nil_iff.mp (hnone kind)).1
    have hrest : ∀ kind : RecordKind, kind.accepted T (action.apply T r).next rest = [] :=
      fun kind => (List.append_eq_nil_iff.mp (hnone kind)).2
    obtain ⟨hsilent, hnext⟩ := action.bare_apply T r hbare hfirst
    obtain ⟨hlater, hlast⟩ := ih (action.apply T r).next hnext hrest
    simp only [run, Trace.deliveries_append, hsilent, hlater]
    exact ⟨rfl, hlast⟩

/-! ## After the first shutdown -/

theorem create_open (T : Transport σ) (carrier : σ) (options : Options) (processId : UInt32)
    (draws : List UInt64) (now : Int) (turn : Turn σ)
    (hcreate : create T carrier options processId draws now = .ok turn) :
    turn.next.shutDown = false :=
  congrArg shutDown (create_next T carrier options processId draws now turn hcreate)

/-- After the first shutdown the transport is closed, unless it broke down in the last
flush, and no later shutdown does anything. Every other action goes on as before: the run
after it is silent exactly if each of its actions is, and one that attempts a flush is not
while something is held that somebody reports. Nothing is held after the shutdown if
nothing was before or if its report is settled, and then nothing is sent until something
more is recorded. -/
theorem sent_after_shutdown (T : Transport σ) (carrier : σ) (options : Options)
    (processId : UInt32) (draws : List UInt64) (now : Int) (turn : Turn σ)
    (hcreate : create T carrier options processId draws now = .ok turn)
    (before later : List Action) (closing : Int)
    (hfirst : ∀ reading, .shutdown reading ∉ before) :
    let working := (run T turn.next before).next
    let flushed := flush T { working with shutDown := true } closing
    let closed := (Action.shutdown closing).apply T working
    let last := run T closed.next later
    closed.next.carrier =
      (if flushed.trace.panicked then flushed.next.carrier else T.close flushed.next.carrier) ∧
    (∀ reading, (Action.shutdown reading).apply T last.next = ⟨last.next, []⟩) ∧
    (last.trace.deliveries = [] ↔ ∀ earlier action rest, later = earlier ++ action :: rest →
      ∀ now identity, action.attempt? (run T closed.next earlier).next = some now →
        ¬ (action.taken (run T closed.next earlier).next).Ready identity) ∧
    (closed.next.Bare ↔ working.Bare ∨
      ∃ delivery ∈ closed.trace.deliveries, delivery.isSettled options.delivery = true) ∧
    (closed.next.Bare → (∀ kind : RecordKind, kind.accepted T closed.next later = []) →
      last.trace.deliveries = [] ∧ last.next.Bare) := by
  intro working flushed closed last
  have hfresh := create_open T carrier options processId draws now turn hcreate
  have hopen : working.shutDown = false := by
    apply Bool.eq_false_iff.mpr
    intro hshut
    rcases (shutDown_run T turn.next before).mp hshut with hmade | ⟨reading, hin⟩
    · simp [hfresh] at hmade
    · exact hfirst reading hin
  have hshut : last.next.shutDown = true := by
    apply (shutDown_run T closed.next later).mpr
    exact Or.inl ((Action.shutDown_apply (.shutdown closing) T working).mpr (Or.inr ⟨_, rfl⟩))
  have hguarantee : working.guarantee = options.delivery := by
    rw [← (create_fresh T carrier options processId draws now turn hcreate).guarantee]
    exact congrArg Settings.guarantee (settings_run T turn.next before)
  refine ⟨carrier_shutdown T working closing hopen, ?_, ?_, ?_, bare_run T closed.next later⟩
  · intro reading
    exact shutdown_again T last.next reading hshut
  · exact (quiet_run_iff T closed.next later).symm
  · obtain ⟨left, hclosed⟩ : ∃ left,
        closed = ⟨{ flushed.next with carrier := left }, flushed.trace⟩ :=
      shutdown_eq T working closing hopen
    have hflush := bare_flush T { working with shutDown := true } closing
    rw [hclosed, ← hguarantee]
    exact hflush

/-- The report of the shutdown comes back, and the first of two flushes that come after it
sends it again. -/
theorem sent_after_shutdown_outage :
    ∃ turn, create Recording.transport Outage.carrier (Outage.options 2) 7 [] 0 = .ok turn ∧
      (∀ reading, .shutdown reading ∉ Outage.actions.take 4) ∧
      let working := (run Recording.transport turn.next (Outage.actions.take 4)).next
      let closed := (Action.shutdown 9).apply Recording.transport working
      let last := run Recording.transport closed.next [.flush 10, .flush 11]
      closed.next.carrier.closes = 1 ∧ last.trace.deliveries.length = 1 ∧ ¬ closed.next.Bare ∧
      ∀ reading, (Action.shutdown reading).apply Recording.transport last.next =
        ⟨last.next, []⟩ := by
  obtain ⟨turn, hcreate, hcloses, hsent⟩ : ∃ turn,
      create Recording.transport Outage.carrier (Outage.options 2) 7 [] 0 = .ok turn ∧
      let working := (run Recording.transport turn.next (Outage.actions.take 4)).next
      let closed := (Action.shutdown 9).apply Recording.transport working
      closed.next.carrier.closes = 1 ∧
      (run Recording.transport closed.next [.flush 10, .flush 11]).trace.deliveries.length = 1 :=
    ⟨_, rfl, by decide +kernel, by decide +kernel⟩
  have hfirst : ∀ reading, .shutdown reading ∉ Outage.actions.take 4 := by
    simp [Outage.actions]
  obtain ⟨_, hagain, _, _, hsilent⟩ := sent_after_shutdown Recording.transport Outage.carrier
    (Outage.options 2) 7 [] 0 turn hcreate (Outage.actions.take 4) [.flush 10, .flush 11] 9 hfirst
  refine ⟨turn, hcreate, hfirst, hcloses, hsent, ?_, hagain⟩
  intro hbare
  have hnone (kind : RecordKind) : kind.accepted Recording.transport
      ((Action.shutdown 9).apply Recording.transport
        (run Recording.transport turn.next (Outage.actions.take 4)).next).next
      [.flush 10, .flush 11] = [] := by
    cases kind with
    | log => rfl
    | span => rfl
  have hnothing := (hsilent hbare hnone).1
  rw [hnothing] at hsent
  cases hsent

/-- A report that failed in a shutdown goes out again on the transport that has been closed
since, with the next flush and with the next record that finds a flush due. -/
theorem sent_after_failed_shutdown :
    let options : Options := {
      groupName := some "group"
      accessToken := some "token"
      reportingPeriod := .ofSecs 3600
      delivery := .retainUntilAcknowledged }
    let away : Recording := { script := [.settled (.failed (.connect "refused"))] }
    ∃ turn, create Recording.transport away options 7 [] 0 = .ok turn ∧
      let recorded := (Action.log (.all 2) { level := .info, message := "a" }).apply
        Recording.transport turn.next
      let closed := (Action.shutdown 3).apply Recording.transport recorded.next
      closed.trace.panicked = false ∧ closed.trace.deliveries.length = 1 ∧
      closed.next.carrier.closes = 1 ∧
      ∀ later ∈ [Action.flush 4,
          Action.log ⟨4, 3600000003, 5⟩ { level := .info, message := "b" },
          Action.finishSpan ⟨4, 3600000003, 5⟩ {
            guid := "span", operation := "work", startMicros := 1 }],
        (later.apply Recording.transport closed.next).trace.deliveries.length = 1 := by
  refine ⟨_, rfl, ?_⟩
  intro recorded closed
  refine ⟨by decide +kernel, by decide +kernel, by decide +kernel, ?_⟩
  intro later hlater
  simp only [List.mem_cons, List.not_mem_nil, or_false] at hlater
  rcases hlater with rfl | rfl | rfl
  · decide +kernel
  · decide +kernel
  · decide +kernel

end Recorder

end Telemetry
