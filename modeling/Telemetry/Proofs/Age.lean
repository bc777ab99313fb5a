import Mathlib.Data.List.Basic
import Telemetry.Proofs.Buffer

/-!
What a restore gives up, by age. It judges age by place: what it cuts off is the front of
the snapshot. That is older than all that was pushed since. But a push into a full buffer
has put its item into the slot of an older one, and from then on the order of the places
is not that of the pushes; so a snapshot that overflowed may lose an item and keep an
older one. Items carry the numbers of their pushes here, which makes no difference to
where they go.
-/

namespace Telemetry

namespace Buffer

variable {α β : Type}

/-- The slots that so many pushes go to, if there are slots: the free ones in their order,
and those that are drawn when none is free. -/
def slots (max held : Nat) (draws : List UInt64) : (count : Nat) → List Nat
  | 0 => []
  | count + 1 =>
    if held < max then held :: slots max (held + 1) draws count
    else
      let (slot, draws) := Eviction.pick max draws
      slot :: slots max held draws count

theorem slots_of_room (max held : Nat) (draws : List UInt64) (count : Nat)
    (hroom : held + count ≤ max) : slots max held draws count = List.range' held count := by
  induction count generalizing held with
  | zero => rfl
  | succ count ih =>
    have hfree : held < max := by omega
    rw [slots, if_pos hfree, ih (held + 1) (by omega), List.range'_succ]

/-- Where a push puts its item, what it leaves elsewhere, and how it goes on. -/
theorem push_slot (buffer : Buffer α) (item : α) (draws : List UInt64) (count : Nat)
    (hmax : 0 < buffer.max) :
    ∃ slot, slots buffer.max buffer.items.length draws (count + 1) =
        slot :: slots buffer.max (buffer.push item draws).1.items.length
          (buffer.push item draws).2.2 count ∧
      ∀ place, (buffer.push item draws).1.items[place]? =
        if place = slot then some item else buffer.items[place]? := by
  rcases push_cases buffer item draws with
    ⟨hnone, _⟩ | ⟨hroom, hitems, hrest⟩ | ⟨_, hfull, hitems, hrest⟩
  · omega
  · refine ⟨buffer.items.length, ?_, fun place => ?_⟩
    · rw [slots, if_pos hroom, hitems, hrest, List.length_append, List.length_singleton]
    · rw [hitems]
      by_cases hplace : place = buffer.items.length
      · simp [hplace]
      · rw [if_neg hplace]
        rcases Nat.lt_or_gt_of_ne hplace with hbefore | hbehind
        · exact List.getElem?_append_left hbefore
        · rw [List.getElem?_eq_none (by simp; omega), List.getElem?_eq_none (by omega)]
  · have hslot : (Eviction.pick buffer.max draws).1 < buffer.items.length := by
      rw [hfull]
      exact Eviction.pick_lt hmax draws
    refine ⟨(Eviction.pick buffer.max draws).1, ?_, fun place => ?_⟩
    · rw [slots, if_neg (by omega), hitems, hrest, List.length_set]
    · rw [hitems, List.getElem?_set]
      by_cases hplace : place = (Eviction.pick buffer.max draws).1
      · simp [hplace, hslot]
      · simp [hplace, Ne.symm hplace]

theorem pushAll_max (buffer : Buffer α) (draws : List UInt64) (items : List α) :
    (buffer.pushAll draws items).1.max = buffer.max := by
  induction items generalizing buffer draws with
  | nil => rfl
  | cons item rest ih =>
    rw [pushAll]
    exact (ih (buffer.push item draws).1 (buffer.push item draws).2.2).trans
      (push_max buffer item draws)

/-- No push brings in an item but its own. -/
theorem mem_pushAll (buffer : Buffer α) (draws : List UInt64) (items : List α) (a : α)
    (hmember : a ∈ (buffer.pushAll draws items).1.items) : a ∈ buffer.items ∨ a ∈ items := by
  induction items generalizing buffer draws with
  | nil => exact Or.inl hmember
  | cons item rest ih =>
    rcases ih (buffer.push item draws).1 (buffer.push item draws).2.2 hmember with
      hheld | hrest
    · rcases mem_push buffer item draws a hheld with hold | rfl
      · exact Or.inl hold
      · exact Or.inr List.mem_cons_self
    · exact Or.inr (List.mem_cons_of_mem item hrest)

/-- The item in a slot is the one of the last push that went there, or it has been there
all along. -/
theorem pushAll_slot (buffer : Buffer (α × Nat)) (draws : List UInt64) (items : List α)
    (first place : Nat) (item : α × Nat)
    (hitem : (buffer.pushAll draws (items.zipIdx first)).1.items[place]? = some item) :
    let written := slots buffer.max buffer.items.length draws items.length
    (buffer.items[place]? = some item ∧ ∀ push : Nat, written[push]? ≠ some place) ∨
    ∃ push : Nat, item.2 = first + push ∧ written[push]? = some place ∧
      ∀ later, push < later → written[later]? ≠ some place := by
  induction items generalizing buffer draws first with
  | nil =>
    intro written
    exact Or.inl ⟨hitem, fun push => by simp [written, slots]⟩
  | cons head rest ih =>
    let pushed := buffer.push (head, first) draws
    have hmax : 0 < buffer.max := by
      have hheld := (buffer.pushAll draws ((head :: rest).zipIdx first)).1.length_le
      have hplace := (List.getElem?_eq_some_iff.mp hitem).1
      rw [pushAll_max] at hheld
      omega
    obtain ⟨slot, hslots, hplaces⟩ := push_slot buffer (head, first) draws rest.length hmax
    have hrest := ih pushed.1 pushed.2.2 (first + 1) hitem
    rw [push_max] at hrest
    intro written
    have hwritten : written = slot :: slots buffer.max pushed.1.items.length pushed.2.2
        rest.length := hslots
    rw [hwritten]
    rcases hrest with ⟨hheld, hnever⟩ | ⟨push, hnumber, hwrites, hlast⟩
    · rw [hplaces place] at hheld
      by_cases hplace : place = slot
      · rw [if_pos hplace] at hheld
        refine Or.inr ⟨0, ?_, by simp [hplace], fun later hlater => ?_⟩
        · rw [← Option.some.inj hheld]
          rfl
        · obtain ⟨before, rfl⟩ := Nat.exists_eq_succ_of_ne_zero (Nat.ne_of_gt hlater)
          exact hnever before
      · rw [if_neg hplace] at hheld
        refine Or.inl ⟨hheld, fun push => ?_⟩
        cases push with
        | zero => simp [Ne.symm hplace]
        | succ push => exact hnever push
    · refine Or.inr ⟨push + 1, by omega, hwrites, fun later hlater => ?_⟩
      obtain ⟨before, rfl⟩ := Nat.exists_eq_succ_of_ne_zero (Nat.ne_zero_of_lt hlater)
      exact hlast before (by omega)

/-- A restore into a buffer that holds newer items gives up the front of the snapshot and
nothing else. -/
theorem restore_lost (buffer : Buffer α) (snapshot : List α) :
    (buffer.restore snapshot).2 ≤ snapshot.length ∧
      snapshot.take (buffer.restore snapshot).2 ++ (buffer.restore snapshot).1.items =
        snapshot ++ buffer.items ∧
      (buffer.restore snapshot).1.items =
        snapshot.drop (buffer.restore snapshot).2 ++ buffer.items := by
  have hlength := buffer.length_le
  have hcovered : (buffer.restore snapshot).2 ≤ snapshot.length := by
    rw [restore_dropped]
    omega
  have hitems : (buffer.restore snapshot).1.items =
      snapshot.drop (buffer.restore snapshot).2 ++ buffer.items := by
    rw [restore_items, ← restore_dropped, List.drop_append_of_le_length hcovered]
  refine ⟨hcovered, ?_, hitems⟩
  rw [hitems, ← List.append_assoc, List.take_append_drop]

/-- A snapshot is taken, more items are pushed, and the snapshot is put back. What is given
up then is the front of the snapshot. Every item of it was pushed before all that came after
the snapshot, but before all that is left of the snapshot only if each slot that is left was
written after the last push into a slot that is given up. That is so as long as no push
before the snapshot found the buffer full. -/
theorem restore_by_age (max : Nat) (before since : List α) (draws later : List UInt64) :
    let filled := ((empty max).pushAll draws before.zipIdx).1
    let snapshot := filled.take.1
    let refilled := (filled.take.2.pushAll later (since.zipIdx before.length)).1
    let restored := (refilled.restore snapshot).1
    let lost := snapshot.take (refilled.restore snapshot).2
    let written := slots max 0 draws before.length
    lost ++ restored.items = snapshot ++ refilled.items ∧
    (∀ old ∈ lost, ∀ kept ∈ refilled.items, old.2 < kept.2) ∧
    ((∀ old ∈ lost, ∀ kept ∈ restored.items, old.2 < kept.2) ↔
      ∀ (push slot place : Nat), written[push]? = some slot → slot < lost.length →
        lost.length ≤ place → place < snapshot.length →
          ∃ again > push, written[again]? = some place) ∧
    (before.length ≤ max → ∀ old ∈ lost, ∀ kept ∈ restored.items, old.2 < kept.2) := by
  intro filled snapshot refilled restored lost written
  obtain ⟨hcovered, hwhole, hitems⟩ := restore_lost refilled snapshot
  have hcut : lost.length = (refilled.restore snapshot).2 := by
    rw [List.length_take, Nat.min_eq_left hcovered]
  -- What is in a slot of the snapshot comes from the last push that went there.
  have hlast (place : Nat) (item : α × Nat) (hitem : snapshot[place]? = some item) :
      written[item.2]? = some place ∧ ∀ again, item.2 < again → written[again]? ≠ some place := by
    rcases pushAll_slot (empty max) draws before 0 place item hitem with
      ⟨hnothing, _⟩ | ⟨push, hnumber, hwrites, hnever⟩
    · simp [empty] at hnothing
    · rw [hnumber, Nat.zero_add]
      exact ⟨hwrites, hnever⟩
  have hold : ∀ item ∈ snapshot, item.2 < before.length := by
    intro item hitem
    rcases mem_pushAll (empty max) draws before.zipIdx item hitem with hnothing | hpushed
    · simp [empty] at hnothing
    · simpa using List.snd_lt_of_mem_zipIdx hpushed
  have hnew : ∀ item ∈ refilled.items, before.length ≤ item.2 := by
    intro item hitem
    rcases mem_pushAll filled.take.2 later (since.zipIdx before.length) item hitem with
      hnothing | hpushed
    · simp [take, empty] at hnothing
    · exact List.le_snd_of_mem_zipIdx hpushed
  have hsince : ∀ old ∈ lost, ∀ kept ∈ refilled.items, old.2 < kept.2 := fun old hlost kept hkept =>
    Nat.lt_of_lt_of_le (hold old (List.mem_of_mem_take hlost)) (hnew kept hkept)
  have hlaw : (∀ old ∈ lost, ∀ kept ∈ restored.items, old.2 < kept.2) ↔
      ∀ (push slot place : Nat), written[push]? = some slot → slot < lost.length →
        lost.length ≤ place → place < snapshot.length →
          ∃ again > push, written[again]? = some place := by
    constructor
    · intro hages push slot place hwrites hgone hleft hplace
      have hslot : slot < snapshot.length := by omega
      let old := snapshot[slot]
      let kept := snapshot[place]
      have hlost : old ∈ lost := List.mem_take_iff_getElem.mpr ⟨slot, by omega, rfl⟩
      have hkept : kept ∈ restored.items := by
        rw [hitems]
        refine List.mem_append_left _ (List.mem_drop_iff_getElem.mpr ⟨place - lost.length, ?_, ?_⟩)
        · omega
        · simp only [kept, ← hcut, Nat.add_sub_cancel' hleft]
      have hpush : push ≤ old.2 := Nat.le_of_not_lt fun hlater =>
        (hlast slot old (List.getElem?_eq_getElem hslot)).2 push hlater hwrites
      exact ⟨kept.2, Nat.lt_of_le_of_lt hpush (hages old hlost kept hkept),
        (hlast place kept (List.getElem?_eq_getElem hplace)).1⟩
    · intro hrewritten old hlost kept hkept
      rw [hitems] at hkept
      rcases List.mem_append.mp hkept with hleft | hkept
      · obtain ⟨slot, hslot, hold⟩ := List.mem_take_iff_getElem.mp hlost
        obtain ⟨offset, hplace, hkept⟩ := List.mem_drop_iff_getElem.mp hleft
        have hwrites := (hlast slot old (List.getElem?_eq_some_iff.mpr ⟨by omega, hold⟩)).1
        obtain ⟨again, hlater, hagain⟩ := hrewritten old.2 slot
          ((refilled.restore snapshot).2 + offset) hwrites (by omega) (by omega) (by omega)
        have hyoungest : again ≤ kept.2 := Nat.le_of_not_lt fun hbeyond =>
          (hlast _ kept (List.getElem?_eq_some_iff.mpr ⟨by omega, hkept⟩)).2 again hbeyond hagain
        omega
      · exact hsince old hlost kept hkept
  refine ⟨hwhole, hsince, hlaw, fun hroom => hlaw.mpr ?_⟩
  intro push slot place hwrites hgone hleft hplace
  -- Without an overflow each push goes to the slot of its own number.
  have hplain (number target : Nat) (htarget : written[number]? = some target) :
      number = target := by
    have hordered : written = List.range' 0 before.length :=
      slots_of_room max 0 draws before.length (by omega)
    rw [hordered] at htarget
    obtain ⟨_, hvalue⟩ := List.getElem?_eq_some_iff.mp htarget
    simpa using hvalue
  have hkept := (hlast place snapshot[place] (List.getElem?_eq_getElem hplace)).1
  have hslot := hplain push slot hwrites
  have hnumber := hplain snapshot[place].2 place hkept
  exact ⟨snapshot[place].2, by omega, hkept⟩

/-- The third push went to the slot that is left, so what is given up for the fourth is the
oldest item after all. -/
theorem restore_by_age_rewritten :
    let filled := ((empty 2).pushAll [0x8000000000000000] ([1, 2, 3] : List Nat).zipIdx).1
    let snapshot := filled.take.1
    let refilled := (filled.take.2.pushAll [] (([4] : List Nat).zipIdx 3)).1
    let restored := (refilled.restore snapshot).1
    let lost := snapshot.take (refilled.restore snapshot).2
    lost = [(1, 0)] ∧ restored.items = [(3, 2), (4, 3)] ∧
    (∀ old ∈ lost, ∀ kept ∈ refilled.items, old.2 < kept.2) ∧
    ((∀ old ∈ lost, ∀ kept ∈ restored.items, old.2 < kept.2) ↔
      ∀ (push slot place : Nat), ([0, 1, 1] : List Nat)[push]? = some slot → slot < lost.length →
        lost.length ≤ place → place < snapshot.length →
          ∃ again > push, ([0, 1, 1] : List Nat)[again]? = some place) := by
  intro filled snapshot refilled restored lost
  obtain ⟨_, hsince, hlaw, _⟩ :=
    restore_by_age 2 ([1, 2, 3] : List Nat) [4] [0x8000000000000000] []
  exact ⟨by decide +kernel, by decide +kernel, hsince, hlaw⟩

/-- The third push went to the slot that is given up for the fourth, so the third item goes
and the second one stays. -/
theorem restore_keeps_older :
    let filled := ((empty 2).pushAll [0] ([1, 2, 3] : List Nat).zipIdx).1
    let snapshot := filled.take.1
    let refilled := (filled.take.2.pushAll [] (([4] : List Nat).zipIdx 3)).1
    let restored := (refilled.restore snapshot).1
    let lost := snapshot.take (refilled.restore snapshot).2
    lost = [(3, 2)] ∧ restored.items = [(2, 1), (4, 3)] ∧
    ¬ ∀ old ∈ lost, ∀ kept ∈ restored.items, old.2 < kept.2 := by
  decide +kernel

end Buffer

end Telemetry
