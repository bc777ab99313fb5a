import Mathlib.Data.List.Chain
import Telemetry.Proofs.Holding

/-!
The windows of the reports of a run. Nothing is assumed of the clock: a window that
would end before it starts is closed where it starts, so a clock that goes back
gives empty windows and never ones that overlap. A window moves on with its report
only, and not if the report comes back or the transport breaks down.
-/

namespace Telemetry

namespace Delivery

/-- Deliveries whose windows follow each other from the first instant to the last
one. -/
inductive Tiling (guarantee : DeliveryGuarantee) : Int → List Delivery → Int → Prop
  | nil (start : Int) : Tiling guarantee start [] start
  | cons {start stop : Int} {delivery : Delivery} {rest : List Delivery}
      (hstart : delivery.report.oldestMicros = start)
      (hordered : delivery.report.oldestMicros ≤ delivery.report.youngestMicros)
      (hrest : Tiling guarantee (delivery.nextOldest guarantee) rest stop) :
      Tiling guarantee start (delivery :: rest) stop

theorem oldest_le_nextOldest (guarantee : DeliveryGuarantee) (delivery : Delivery)
    (hordered : delivery.report.oldestMicros ≤ delivery.report.youngestMicros) :
    delivery.report.oldestMicros ≤ delivery.nextOldest guarantee := by
  unfold nextOldest
  split
  · exact Int.le_refl _
  · exact Int.le_refl _
  · exact hordered

namespace Tiling

variable {guarantee : DeliveryGuarantee} {start middle stop : Int} {deliveries : List Delivery}

theorem append {later : List Delivery} (hfirst : Tiling guarantee start deliveries middle)
    (hlater : Tiling guarantee middle later stop) :
    Tiling guarantee start (deliveries ++ later) stop := by
  induction hfirst with
  | nil _ => exact hlater
  | cons hstart hordered _ ih => exact cons hstart hordered (ih hlater)

theorem head (htiling : Tiling guarantee start deliveries stop) :
    ∀ first ∈ deliveries.head?, first.report.oldestMicros = start := by
  intro first hfirst
  cases htiling with
  | nil _ => cases hfirst
  | cons hstart _ _ =>
    cases hfirst
    exact hstart

theorem ordered (htiling : Tiling guarantee start deliveries stop) :
    ∀ delivery ∈ deliveries, start ≤ delivery.report.oldestMicros ∧
      delivery.report.oldestMicros ≤ delivery.report.youngestMicros := by
  induction htiling with
  | nil _ =>
    intro delivery hmember
    cases hmember
  | @cons start stop first rest hstart hordered _ ih =>
    intro delivery hmember
    rcases List.mem_cons.mp hmember with rfl | hlater
    · exact ⟨Int.le_of_eq hstart.symm, hordered⟩
    · have hadvance := first.oldest_le_nextOldest guarantee hordered
      obtain ⟨hbound, hordered'⟩ := ih delivery hlater
      exact ⟨by omega, hordered'⟩

theorem isChain (htiling : Tiling guarantee start deliveries stop) :
    deliveries.IsChain fun a b => b.report.oldestMicros = a.nextOldest guarantee := by
  induction htiling with
  | nil _ => exact List.isChain_nil
  | cons _ _ hrest ih => exact List.isChain_cons.mpr ⟨hrest.head, ih⟩

theorem stop_eq (htiling : Tiling guarantee start deliveries stop) :
    stop = (deliveries.getLast?.map (·.nextOldest guarantee)).getD start := by
  induction htiling with
  | nil _ => rfl
  | @cons start stop first rest _ _ _ ih =>
    rw [ih, List.getLast?_cons]
    cases rest.getLast? with
    | none => rfl
    | some last => rfl

/-- If every report is followed by one that starts where it ends, the check that
looks at nothing but the reports succeeds. -/
theorem tile (htiling : Tiling guarantee start deliveries stop)
    (hadvance : ∀ delivery ∈ deliveries,
      delivery.nextOldest guarantee = delivery.report.youngestMicros) :
    Report.tile (deliveries.map (·.report)) = true := by
  induction htiling with
  | nil _ => rfl
  | @cons start stop first rest _ _ hrest ih =>
    have hlater := ih fun delivery hmember => hadvance delivery (List.mem_cons_of_mem first hmember)
    cases rest with
    | nil => rfl
    | cons second rest =>
      have hjoint : second.report.oldestMicros = first.report.youngestMicros :=
        (hrest.head second rfl).trans (hadvance first List.mem_cons_self)
      simpa [Report.tile, hjoint] using hlater

end Tiling

end Delivery

namespace Recorder

variable {σ : Type}

theorem reportStart_after (T : Transport σ) (r : Recorder σ) (identity : Identity) (now : Int)
    (carrier : σ) :
    ((r.postponed now).after (r.delivery T identity now) carrier).reportStartMicros =
      (r.delivery T identity now).nextOldest r.guarantee := by
  have hguarantee : (r.postponed now).guarantee = r.guarantee := rfl
  unfold after
  rw [hguarantee]
  cases hsettled : (r.delivery T identity now).isSettled r.guarantee with
  | true => rfl
  | false =>
    obtain ⟨⟨error, hanswer⟩, hretain⟩ := (Delivery.isSettled_eq_false_iff _ _).mp hsettled
    unfold Delivery.nextOldest
    rw [hanswer, hretain]
    rfl

/-- A flush that has nobody to report for, or nothing to report, or a recorder that is
switched off, sends nothing and leaves the window where it is. -/
theorem flush_skipped (T : Transport σ) (r : Recorder σ) (now : Int)
    (hskipped : r.enabled = false ∨ r.identity = none ∨ (r.logs.items = [] ∧ r.spans.items = [])) :
    (flush T r now).trace.deliveries = [] ∧
      (flush T r now).next.reportStartMicros = r.reportStartMicros := by
  have hidle : ∀ identity, ¬ r.Ready identity := by
    intro identity hready
    rcases hskipped with hdisabled | hunknown | hempty
    · rw [hready.enabled] at hdisabled
      cases hdisabled
    · rw [hready.identified] at hunknown
      cases hunknown
    · exact hready.holds hempty
  rw [flush_idle T r now hidle]
  refine ⟨rfl, ?_⟩
  dsimp only
  split
  · rfl
  · rfl

theorem Action.reportStart_taken (action : Action) (r : Recorder σ) :
    (action.taken r).reportStartMicros = r.reportStartMicros := by
  have htaking := action.taking r
  generalize action.taken r = recorded at htaking ⊢
  cases htaking with
  | nothing _ => rfl
  | log record _ _ => rfl
  | span record _ _ => rfl
  | identity _ _ identity _ _ _ => rfl
  | flag _ => rfl
  | off _ _ => rfl

theorem Action.tiling_apply (action : Action) (T : Transport σ) (r : Recorder σ) :
    Delivery.Tiling r.guarantee r.reportStartMicros (action.apply T r).trace.deliveries
      (action.apply T r).next.reportStartMicros := by
  have htaken := action.reportStart_taken r
  rcases action.apply_outcome T r with
    ⟨hsilent, due, carrier, hnext⟩ | ⟨identity, now, carrier, _, hsent, hnext⟩
  · rw [hsilent, hnext, ← htaken]
    exact Delivery.Tiling.nil _
  · rw [hsent, hnext, reportStart_after, action.guarantee_taken r]
    exact Delivery.Tiling.cons htaken (Int.le_max_right _ _) (Delivery.Tiling.nil _)

theorem tiling_run (T : Transport σ) (r : Recorder σ) (actions : List Action) :
    Delivery.Tiling r.guarantee r.reportStartMicros (run T r actions).trace.deliveries
      (run T r actions).next.reportStartMicros := by
  induction actions generalizing r with
  | nil => exact Delivery.Tiling.nil _
  | cons action rest ih =>
    have hlater := ih (action.apply T r).next
    rw [action.guarantee_apply T r] at hlater
    simp only [run, Trace.deliveries_append]
    exact (action.tiling_apply T r).append hlater

/-- The reports of a run in which none came back and no sending broke down pass the
check of their windows. -/
theorem tile_run (T : Transport σ) (r : Recorder σ) (actions : List Action)
    (hadvance : ∀ delivery ∈ (run T r actions).trace.deliveries,
      delivery.nextOldest r.guarantee = delivery.report.youngestMicros) :
    Report.tile ((run T r actions).trace.deliveries.map (·.report)) = true :=
  (tiling_run T r actions).tile hadvance

/-- An identity that is known was derived with the start of the recorder. -/
def Anchored (r : Recorder σ) : Prop :=
  ∀ identity, r.identity = some identity → identity.startMicros = r.startMicros

theorem Action.anchored_apply (action : Action) (T : Transport σ) (r : Recorder σ)
    (hanchored : r.Anchored) : (action.apply T r).next.Anchored := by
  intro identity hidentity
  rw [action.startMicros_apply T r]
  rcases action.identity_cases T r with hsame | ⟨_, groupName, accessToken, derived, hderived, hnew⟩
  · rw [hsame] at hidentity
    exact hanchored identity hidentity
  · rw [hnew] at hidentity
    cases hidentity
    rw [(Identity.ofProcess_ok hderived).2]

theorem Action.origin_apply (action : Action) (T : Transport σ) (r : Recorder σ)
    (hanchored : r.Anchored) : ∀ delivery ∈ (action.apply T r).trace.deliveries,
      delivery.report.origin.startMicros = r.startMicros := by
  intro delivery hmember
  rcases action.apply_outcome T r with
    ⟨hsilent, _⟩ | ⟨identity, now, carrier, hready, hsent, _⟩
  · rw [hsilent] at hmember
    cases hmember
  · rw [hsent, List.mem_singleton] at hmember
    subst hmember
    have hknown : (action.apply T r).next.identity = some identity := by
      rw [action.identity_apply T r]
      exact hready.identified
    exact (action.anchored_apply T r hanchored identity hknown).trans
      (action.startMicros_apply T r)

theorem origin_run (T : Transport σ) (r : Recorder σ) (actions : List Action)
    (hanchored : r.Anchored) : ∀ delivery ∈ (run T r actions).trace.deliveries,
      delivery.report.origin.startMicros = r.startMicros := by
  induction actions generalizing r with
  | nil =>
    intro delivery hmember
    cases hmember
  | cons action rest ih =>
    intro delivery hmember
    simp only [run, Trace.deliveries_append, List.mem_append] at hmember
    rcases hmember with hnow | hlater
    · exact action.origin_apply T r hanchored delivery hnow
    · rw [← action.startMicros_apply T r]
      exact ih (action.apply T r).next (action.anchored_apply T r hanchored) delivery hlater

/-- Whatever the clock says, the windows of a run lie side by side from the making of
the recorder on. A report that came back, or whose sending broke down, is followed
by one with the same start, any other by one that starts where it ends. Only reports
move the window, so a flush that is skipped does not. -/
theorem windows_tile (T : Transport σ) (carrier : σ) (options : Options)
    (processId : UInt32) (draws : List UInt64) (now : Int) (turn : Turn σ)
    (hcreate : create T carrier options processId draws now = .ok turn)
    (actions : List Action) :
    let last := run T turn.next actions
    let sent := last.trace.deliveries
    (∀ first ∈ sent.head?, first.report.oldestMicros = now) ∧
    (∀ delivery ∈ sent, delivery.report.origin.startMicros = now ∧
      delivery.report.origin.startMicros ≤ delivery.report.oldestMicros ∧
      delivery.report.oldestMicros ≤ delivery.report.youngestMicros) ∧
    (sent.IsChain fun a b => b.report.oldestMicros = a.nextOldest options.delivery) ∧
    last.next.reportStartMicros =
      (sent.getLast?.map (·.nextOldest options.delivery)).getD now ∧
    ∀ reading, (last.next.enabled = false ∨ last.next.identity = none ∨
        (last.next.logs.items = [] ∧ last.next.spans.items = [])) →
      (flush T last.next reading).trace.deliveries = [] ∧
      (flush T last.next reading).next.reportStartMicros = last.next.reportStartMicros := by
  intro last sent
  have hfresh := create_fresh T carrier options processId draws now turn hcreate
  have hanchored : turn.next.Anchored := by
    intro identity hidentity
    rw [hfresh.startMicros]
    exact hfresh.identity identity hidentity
  have htiling := tiling_run T turn.next actions
  rw [hfresh.guarantee, hfresh.reportStartMicros] at htiling
  refine ⟨htiling.head, ?_, htiling.isChain, htiling.stop_eq, ?_⟩
  · intro delivery hmember
    have horigin := origin_run T turn.next actions hanchored delivery hmember
    rw [hfresh.startMicros] at horigin
    rw [horigin]
    exact ⟨rfl, htiling.ordered delivery hmember⟩
  · intro reading hskipped
    exact flush_skipped T last.next reading hskipped

/-- The first report fails and is followed by one with the same start, although the
clock has gone back by then; the last one starts where that ends. -/
theorem windows_tile_outage :
    ∃ turn, create Recording.transport Outage.carrier (Outage.options 2) 7 [] 0 = .ok turn ∧
      let last := run Recording.transport turn.next Outage.actions
      let sent := last.trace.deliveries
      (sent.map fun delivery => (delivery.report.oldestMicros, delivery.report.youngestMicros)) =
        [(0, 9), (0, 4), (4, 8)] ∧
      (∀ first ∈ sent.head?, first.report.oldestMicros = 0) ∧
      (∀ delivery ∈ sent, delivery.report.origin.startMicros = 0 ∧
        delivery.report.origin.startMicros ≤ delivery.report.oldestMicros ∧
        delivery.report.oldestMicros ≤ delivery.report.youngestMicros) ∧
      (sent.IsChain fun a b =>
        b.report.oldestMicros = a.nextOldest .retainUntilAcknowledged) ∧
      last.next.reportStartMicros =
        (sent.getLast?.map (·.nextOldest .retainUntilAcknowledged)).getD 0 ∧
      ∀ reading, (last.next.enabled = false ∨ last.next.identity = none ∨
          (last.next.logs.items = [] ∧ last.next.spans.items = [])) →
        (flush Recording.transport last.next reading).trace.deliveries = [] ∧
        (flush Recording.transport last.next reading).next.reportStartMicros =
          last.next.reportStartMicros :=
  ⟨_, rfl, by decide +kernel,
    windows_tile Recording.transport Outage.carrier (Outage.options 2) 7 [] 0 _ rfl Outage.actions⟩

end Recorder

end Telemetry
