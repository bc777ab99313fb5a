import Telemetry.Proofs.History
import Telemetry.Proofs.Settlement

/-!
Where records come from and where they go, when buffers overflow and reports come back.
What was held or accepted is settled or held or was given up, and the counters tell how
many were given up; and nothing is held or sent that was not held or accepted, as it was
then but for a guid that has been filled in.
-/

namespace Telemetry

namespace RecordKind

variable {σ : Type}

open Recorder

/-! ## Where they go -/

/-- From one state to another, records that were held before or accepted since have been
settled, or are held, or are lost, each of them once. The settled deliveries and the
counter tell how many are lost. -/
structure Conserved (kind : RecordKind) (guid : String) (before after : Recorder σ)
    (accepted : List kind.Record) (settled : List Delivery) (lost : Multiset kind.Record) :
    Prop where
  counted : kind.counter before + lost.card =
    (settled.map fun delivery => delivery.report.counted kind.counterName).sum +
      kind.counter after
  records : Multiset.Rel (kind.Stamped guid)
    ((kind.held before).items + accepted : Multiset kind.Record)
    (kind.delivered settled + (kind.held after).items + lost)

instance (kind : RecordKind) (guid : String) : IsTrans kind.Record (kind.Stamped guid) :=
  ⟨fun _ _ _ => Stamped.trans⟩

theorem rel_refl (kind : RecordKind) (guid : String) (records : Multiset kind.Record) :
    Multiset.Rel (kind.Stamped guid) records records :=
  Multiset.rel_refl_of_refl_on fun record _ => Stamped.refl kind guid record

theorem rel_stamp (kind : RecordKind) (guid : String) (records : Multiset kind.Record) :
    Multiset.Rel (kind.Stamped guid) records (records.map (kind.stamp guid)) :=
  Multiset.rel_map_right.mpr
    (Multiset.rel_refl_of_refl_on fun record _ => kind.stamped_stamp guid record)

theorem Conserved.refl (kind : RecordKind) (guid : String) (r : Recorder σ) :
    kind.Conserved guid r r [] [] 0 := by
  refine ⟨?_, ?_⟩
  · simp
  · simpa [delivered] using kind.rel_refl guid (kind.held r).items

theorem Conserved.trans {kind : RecordKind} {guid : String} {a b c : Recorder σ}
    {accepted later : List kind.Record} {settled settledLater : List Delivery}
    {lost lostLater : Multiset kind.Record}
    (hab : kind.Conserved guid a b accepted settled lost)
    (hbc : kind.Conserved guid b c later settledLater lostLater) :
    kind.Conserved guid a c (accepted ++ later) (settled ++ settledLater)
      (lost + lostLater) := by
  refine ⟨?_, ?_⟩
  · have hfirst := hab.counted
    have hlater := hbc.counted
    simp only [List.map_append, List.sum_append, Multiset.card_add]
    omega
  · -- What the second part starts from stays apart from what the first one has put away.
    have hfirst := hab.records.add (kind.rel_refl guid later)
    have hlater := (kind.rel_refl guid (kind.delivered settled + lost)).add hbc.records
    have hmiddle : (kind.delivered settled + (kind.held b).items + lost + later :
          Multiset kind.Record) =
        kind.delivered settled + lost + ((kind.held b).items + later) := by abel
    rw [hmiddle] at hfirst
    have hwhole := hfirst.trans _ hlater
    have hbefore : ((kind.held a).items + (accepted ++ later : List kind.Record) :
          Multiset kind.Record) = (kind.held a).items + accepted + later := by
      rw [← Multiset.coe_add, add_assoc]
    have hafter : (kind.delivered (settled ++ settledLater) + (kind.held c).items +
          (lost + lostLater) : Multiset kind.Record) =
        kind.delivered settled + lost +
          (kind.delivered settledLater + (kind.held c).items + lostLater) := by
      rw [delivered_append, ← Multiset.coe_add]
      abel
    rwa [hbefore, hafter]

/-- What a push gives up is counted, also if it is the new record. -/
theorem conserved_taken (kind : RecordKind) (guid : String) (action : Action) (r : Recorder σ)
    (hdisable : action ≠ .disable) :
    ∃ lost, kind.Conserved guid r (action.taken r) (action.record? r kind).toList [] lost := by
  rcases kind.taken_cases action r hdisable with
    ⟨hnone, hheld, hcounter⟩ | ⟨record, hrecord, hheld, hcounter⟩
  · refine ⟨0, ?_, ?_⟩
    · simp [hcounter]
    · simpa [hnone, hheld, delivered] using kind.rel_refl guid (kind.held r).items
  · obtain ⟨lost, hlost, hitems⟩ := Buffer.push_balanced (kind.held r) record r.draws
    have hdrops : action.drops r kind = ((kind.held r).push record r.draws).2.1 := by
      simp only [Action.drops, hrecord]
    have hcard : lost.card = (action.drops r kind).toNat := by
      rw [hdrops]
      exact hlost
    have hmoved : ((kind.held r).items + [record] : Multiset kind.Record) =
        (kind.held (action.taken r)).items + lost := by
      rw [hheld]
      simpa [Buffer.Operation.apply] using hitems
    refine ⟨lost, ?_, ?_⟩
    · simp [hcounter, hcard]
    · rw [hrecord, Option.toList_some, hmoved]
      simpa [delivered] using kind.rel_refl guid ((kind.held (action.taken r)).items + lost)

/-- A settled delivery takes everything along, and one that comes back changes nothing but
guids. -/
theorem conserved_apply (kind : RecordKind) (guid : String) (action : Action)
    (T : Transport σ) (r : Recorder σ) (hdisable : action ≠ .disable)
    (hguid : ∀ identity, (action.apply T r).next.identity = some identity →
      identity.guid = guid) :
    ∃ lost, kind.Conserved guid r (action.apply T r).next (action.record? r kind).toList
      (Trace.settled r.guarantee (action.apply T r).trace) lost := by
  have hrest : kind.Conserved guid (action.taken r) (action.apply T r).next []
      (Trace.settled r.guarantee (action.apply T r).trace) 0 := by
    have hstamped := kind.rel_stamp guid (kind.held (action.taken r)).items
    unfold Trace.settled
    rcases kind.apply_cases action T r with
      ⟨hsilent, hheld, hcounter⟩ | ⟨identity, delivery, hidentity, hsent, houtcome⟩
    · refine ⟨?_, ?_⟩
      · simp [hsilent, hcounter]
      · simpa [hsilent, hheld, delivered] using
          kind.rel_refl guid (kind.held (action.taken r)).items
    · have hstamp := hguid identity hidentity
      subst hstamp
      rcases houtcome with
        ⟨hsettled, hcarried, hcounted, hheld, hcounter⟩ | ⟨hreturned, hheld, hcounter⟩
      · refine ⟨?_, ?_⟩
        · simp [hsent, hsettled, hcounted, hcounter]
        · simpa [hsent, hsettled, hcarried, hheld, delivered] using hstamped
      · refine ⟨?_, ?_⟩
        · simp [hsent, hreturned, hcounter]
        · simpa [hsent, hreturned, hheld, delivered] using hstamped
  obtain ⟨lost, htaken⟩ := kind.conserved_taken guid action r hdisable
  have hwhole := htaken.trans hrest
  rw [List.append_nil, List.nil_append] at hwhole
  exact ⟨_, hwhole⟩

theorem conserved_run (kind : RecordKind) (guid : String) (T : Transport σ) (r : Recorder σ)
    (actions : List Action) (hdisable : Action.disable ∉ actions)
    (hguid : ∀ identity, (run T r actions).next.identity = some identity →
      identity.guid = guid) :
    ∃ lost, kind.Conserved guid r (run T r actions).next (kind.accepted T r actions)
      (Trace.settled r.guarantee (run T r actions).trace) lost := by
  induction actions generalizing r with
  | nil => exact ⟨0, Conserved.refl kind guid r⟩
  | cons action rest ih =>
    obtain ⟨haction, hrest⟩ := not_or.mp (mt List.mem_cons.mpr hdisable)
    obtain ⟨lost, hfirst⟩ := kind.conserved_apply guid action T r (Ne.symm haction)
      fun identity hidentity =>
        hguid identity (identity_run T (action.apply T r).next rest identity hidentity)
    obtain ⟨lostLater, hlater⟩ := ih (action.apply T r).next hrest hguid
    rw [action.guarantee_apply T r] at hlater
    have hwhole := hfirst.trans hlater
    rw [← Trace.settled_append] at hwhole
    exact ⟨_, hwhole⟩

/-- The record is held, or a delivery carries it, or it was given up; a guid that was not
known may have been filled in. -/
def Accounted (kind : RecordKind) (guid : String) (record : kind.Record) (after : Recorder σ)
    (deliveries : List Delivery) (lost : Multiset kind.Record) : Prop :=
  ∃ found, kind.Stamped guid record found ∧
    (found ∈ (kind.held after).items ∨
      (∃ delivery ∈ deliveries, found ∈ kind.carried delivery.report) ∨ found ∈ lost)

theorem Conserved.accounted {kind : RecordKind} {guid : String} {before after : Recorder σ}
    {accepted : List kind.Record} {settled : List Delivery} {lost : Multiset kind.Record}
    (hconserved : kind.Conserved guid before after accepted settled lost)
    (record : kind.Record) (hrecord : record ∈ accepted) :
    kind.Accounted guid record after settled lost := by
  have hbefore : record ∈ ((kind.held before).items + accepted : Multiset kind.Record) := by
    simp [hrecord]
  obtain ⟨found, hfound, hstamped⟩ :=
    Multiset.exists_mem_of_rel_of_mem hconserved.records hbefore
  refine ⟨found, hstamped, ?_⟩
  rcases Multiset.mem_add.mp hfound with hkept | hlost
  · rcases Multiset.mem_add.mp hkept with hsent | hheld
    · exact Or.inr (Or.inl (by simpa [delivered] using hsent))
    · exact Or.inl hheld
  · exact Or.inr (Or.inr hlost)

/-! ## Where they come from -/

/-- The records of a kind that are held after a run or were in one of its deliveries. -/
def Seen (kind : RecordKind) (turn : Turn σ) (record : kind.Record) : Prop :=
  record ∈ (kind.held turn.next).items ∨
    ∃ delivery ∈ turn.trace.deliveries, record ∈ kind.carried delivery.report

theorem mem_taken (kind : RecordKind) (action : Action) (r : Recorder σ) (record : kind.Record)
    (hrecord : record ∈ (kind.held (action.taken r)).items) :
    record ∈ (kind.held r).items ++ (action.record? r kind).toList := by
  by_cases hdisable : action = .disable
  · subst hdisable
    cases kind with
    | log => cases hrecord
    | span => cases hrecord
  · rcases kind.taken_cases action r hdisable with ⟨_, hheld, _⟩ | ⟨new, hnew, hheld, _⟩
    · rw [hheld] at hrecord
      exact List.mem_append_left _ hrecord
    · rw [hheld] at hrecord
      rw [hnew, Option.toList_some, List.mem_append, List.mem_singleton]
      exact Buffer.mem_push (kind.held r) new r.draws record hrecord

/-- A flush shows what the action has taken in, whether it is settled or comes back. -/
theorem seen_apply (kind : RecordKind) (guid : String) (action : Action) (T : Transport σ)
    (r : Recorder σ) (record : kind.Record)
    (hguid : ∀ identity, (action.apply T r).next.identity = some identity →
      identity.guid = guid)
    (hseen : kind.Seen (action.apply T r) record) :
    ∃ original ∈ (kind.held (action.taken r)).items, kind.Stamped guid original record := by
  rcases hseen with hheld | ⟨delivery, hdelivery, hcarried⟩
  · rcases kind.apply_cases action T r with
      ⟨_, hsame, _⟩ | ⟨identity, _, hidentity, _, ⟨_, _, _, hnone, _⟩ | ⟨_, hback, _⟩⟩
    · rw [hsame] at hheld
      exact ⟨record, hheld, Stamped.refl kind guid record⟩
    · rw [hnone] at hheld
      cases hheld
    · rw [hback, Buffer.map_items, hguid identity hidentity] at hheld
      obtain ⟨original, horiginal, rfl⟩ := List.mem_map.mp hheld
      exact ⟨original, horiginal, kind.stamped_stamp guid original⟩
  · rcases action.apply_outcome T r with
      ⟨hsilent, _⟩ | ⟨identity, now, _, hready, hsent, _⟩
    · rw [hsilent] at hdelivery
      cases hdelivery
    · have hidentity : (action.apply T r).next.identity = some identity :=
        (action.identity_apply T r).trans hready.identified
      rw [hsent, List.mem_singleton] at hdelivery
      subst hdelivery
      have hbatch := kind.carried_batch (action.taken r) identity now
      rw [hguid identity hidentity] at hbatch
      obtain ⟨original, horiginal, rfl⟩ := List.mem_map.mp (hbatch ▸ hcarried)
      exact ⟨original, horiginal, kind.stamped_stamp guid original⟩

/-- Whatever is held or sent in a run was held at first or accepted in it. -/
theorem seen_run (kind : RecordKind) (guid : String) (T : Transport σ) (r : Recorder σ)
    (actions : List Action) (record : kind.Record)
    (hguid : ∀ identity, (run T r actions).next.identity = some identity →
      identity.guid = guid)
    (hseen : kind.Seen (run T r actions) record) :
    ∃ original ∈ (kind.held r).items ++ kind.accepted T r actions,
      kind.Stamped guid original record := by
  induction actions generalizing r record with
  | nil =>
    rcases hseen with hheld | ⟨_, hdelivery, _⟩
    · exact ⟨record, List.mem_append_left _ hheld, Stamped.refl kind guid record⟩
    · cases hdelivery
  | cons action rest ih =>
    have hknown : ∀ identity, (action.apply T r).next.identity = some identity →
        identity.guid = guid := fun identity hidentity =>
      hguid identity (identity_run T (action.apply T r).next rest identity hidentity)
    have hfirst : ∀ shown, kind.Seen (action.apply T r) shown →
        ∃ original ∈ (kind.held r).items ++ kind.accepted T r (action :: rest),
          kind.Stamped guid original shown := by
      intro shown hshown
      obtain ⟨original, htaken, hstamped⟩ := kind.seen_apply guid action T r shown hknown hshown
      have horiginal := kind.mem_taken action r original htaken
      simp only [accepted, ← List.append_assoc]
      exact ⟨original, List.mem_append_left _ horiginal, hstamped⟩
    have hlater : kind.Seen (run T (action.apply T r).next rest) record →
        ∃ original ∈ (kind.held r).items ++ kind.accepted T r (action :: rest),
          kind.Stamped guid original record := by
      intro hshown
      obtain ⟨middle, hmiddle, hstamped⟩ := ih (action.apply T r).next record hguid hshown
      rcases List.mem_append.mp hmiddle with hheld | haccepted
      · obtain ⟨original, horiginal, hbefore⟩ := hfirst middle (Or.inl hheld)
        exact ⟨original, horiginal, hbefore.trans hstamped⟩
      · refine ⟨middle, ?_, hstamped⟩
        simp [accepted, haccepted]
    rcases hseen with hheld | ⟨delivery, hdelivery, hcarried⟩
    · exact hlater (Or.inl hheld)
    · simp only [run, Trace.deliveries_append] at hdelivery
      rcases List.mem_append.mp hdelivery with hnow | hthen
      · exact hfirst record (Or.inr ⟨delivery, hnow, hcarried⟩)
      · exact hlater (Or.inr ⟨delivery, hthen, hcarried⟩)

end RecordKind

end Telemetry
