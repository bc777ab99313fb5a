import Mathlib.Algebra.Order.Group.Multiset
import Mathlib.Data.List.DropRight
import Mathlib.Tactic.Abel
import Telemetry.Proofs.Buffer

/-!
Histories of a buffer. A caller pushes items, puts snapshots back, takes everything out
and throws everything away, in any order, with any random draws. An item that was put in
is still held, or was taken out, or was thrown away, or was given up, and the caller is
told how many were given up.
-/

namespace Telemetry

namespace Buffer

variable {α : Type}

/-- What a caller may do with a buffer. Each push brings its own random draws. -/
inductive Operation (α : Type)
  | push (item : α) (draws : List UInt64)
  | restore (older : List α)
  | take
  | clear

/-- What passed between a buffer and its caller: the items that were put in, handed out
and thrown away, how many pushes reported that an item was given up, and how many items
the restores reported. -/
structure Traffic (α : Type) where
  given : List α := []
  taken : List α := []
  cleared : List α := []
  overflows : Nat := 0
  excess : Nat := 0
  deriving DecidableEq

def Traffic.append (first later : Traffic α) : Traffic α where
  given := first.given ++ later.given
  taken := first.taken ++ later.taken
  cleared := first.cleared ++ later.cleared
  overflows := first.overflows + later.overflows
  excess := first.excess + later.excess

def Operation.apply (operation : Operation α) (buffer : Buffer α) : Buffer α × Traffic α :=
  match operation with
  | .push item draws =>
    let (next, dropped, _) := buffer.push item draws
    (next, { given := [item], overflows := dropped.toNat })
  | .restore older =>
    let (next, excess) := buffer.restore older
    (next, { given := older, excess })
  | .take =>
    let (taken, next) := buffer.take
    (next, { taken })
  | .clear => (buffer.clear, { cleared := buffer.items })

/-- The buffer after a history, and what passed in it. -/
def history (buffer : Buffer α) : List (Operation α) → Buffer α × Traffic α
  | [] => (buffer, {})
  | operation :: rest =>
    let (next, traffic) := operation.apply buffer
    let (last, later) := history next rest
    (last, traffic.append later)

theorem max_apply (operation : Operation α) (buffer : Buffer α) :
    (operation.apply buffer).1.max = buffer.max := by
  cases operation with
  | push item draws => exact push_max buffer item draws
  | restore older => exact restore_max buffer older
  | take => rfl
  | clear => rfl

theorem max_history (buffer : Buffer α) (operations : List (Operation α)) :
    (history buffer operations).1.max = buffer.max := by
  induction operations generalizing buffer with
  | nil => rfl
  | cons operation rest ih =>
    have hfirst := max_apply operation buffer
    exact (ih (operation.apply buffer).1).trans hfirst

/-! ## Where the items are -/

/-- Every item of the buffer before, and every item that was put in, is in one place
afterwards; as many as were reported are nowhere. -/
def Balanced (before : Buffer α) (traffic : Traffic α) (after : Buffer α) : Prop :=
  ∃ lost : Multiset α, lost.card = traffic.overflows + traffic.excess ∧
    (before.items + traffic.given : Multiset α) =
      after.items + traffic.taken + traffic.cleared + lost

theorem Balanced.refl (buffer : Buffer α) : Balanced buffer {} buffer := by
  refine ⟨0, rfl, ?_⟩
  simp

theorem Balanced.trans {a b c : Buffer α} {first later : Traffic α}
    (hab : Balanced a first b) (hbc : Balanced b later c) :
    Balanced a (first.append later) c := by
  obtain ⟨lost, hlost, hfirst⟩ := hab
  obtain ⟨lostLater, hlostLater, hlater⟩ := hbc
  refine ⟨lost + lostLater, ?_, ?_⟩
  · simp only [Traffic.append, Multiset.card_add, hlost, hlostLater]
    omega
  · simp only [Traffic.append, ← Multiset.coe_add]
    calc (a.items : Multiset α) + (first.given + later.given)
        = (a.items + first.given) + later.given := by abel
      _ = (b.items + first.taken + first.cleared + lost) + later.given := by rw [hfirst]
      _ = (b.items + later.given) + first.taken + first.cleared + lost := by abel
      _ = (c.items + later.taken + later.cleared + lostLater) + first.taken + first.cleared
            + lost := by rw [hlater]
      _ = c.items + (first.taken + later.taken) + (first.cleared + later.cleared)
            + (lost + lostLater) := by abel

/-- A full buffer gives up the item whose slot was picked. -/
theorem coe_set (items : List α) (slot : Nat) (hslot : slot < items.length) (item : α) :
    (items + [item] : Multiset α) = items.set slot item + [items[slot]] := by
  have hset : (items.set slot item : Multiset α) = (item :: items.eraseIdx slot : List α) :=
    Multiset.coe_eq_coe.mpr (List.set_perm_cons_eraseIdx hslot item)
  have hold : (items : Multiset α) = (items[slot] :: items.eraseIdx slot : List α) :=
    Multiset.coe_eq_coe.mpr (List.getElem_cons_eraseIdx_perm hslot).symm
  rw [hset, hold]
  simp only [← Multiset.cons_coe, ← Multiset.singleton_add, Multiset.coe_nil, add_zero]
  abel

theorem push_balanced (buffer : Buffer α) (item : α) (draws : List UInt64) :
    Balanced buffer ((Operation.push item draws).apply buffer).2
      ((Operation.push item draws).apply buffer).1 := by
  unfold Balanced
  simp only [Operation.apply]
  rcases push_cases buffer item draws with
    ⟨_, hpush⟩ | ⟨_, hitems, hkept⟩ | ⟨hmax, hfull, hitems, hdropped⟩
  · refine ⟨([item] : List α), ?_, ?_⟩
    · simp [hpush]
    · simp [hpush]
  · refine ⟨0, ?_, ?_⟩
    · simp [hkept]
    · simp [hitems, ← Multiset.coe_add]
  · have hslot : (Eviction.pick buffer.max draws).1 < buffer.items.length := by
      rw [hfull]
      exact Eviction.pick_lt hmax draws
    refine ⟨([buffer.items[(Eviction.pick buffer.max draws).1]] : List α), ?_, ?_⟩
    · simp [hdropped]
    · have hmoved := coe_set buffer.items _ hslot item
      rw [hitems]
      simpa using hmoved

theorem restore_balanced (buffer : Buffer α) (older : List α) :
    Balanced buffer ((Operation.restore older).apply buffer).2
      ((Operation.restore older).apply buffer).1 := by
  have hlength := buffer.length_le
  let excess := older.length + buffer.items.length - buffer.max
  have hdropped : (buffer.restore older).2 = excess := restore_dropped buffer older
  have hitems : (buffer.restore older).1.items = (older ++ buffer.items).drop excess :=
    restore_items buffer older
  -- What is given up is what the restore cuts off at the front.
  refine ⟨((older ++ buffer.items).take excess : List α), ?_, ?_⟩
  · have hexcess : excess ≤ older.length + buffer.items.length := Nat.sub_le _ _
    simp [Operation.apply, hdropped, hexcess]
  · have hwhole : (older ++ buffer.items).take excess ++ (older ++ buffer.items).drop excess =
        older ++ buffer.items := List.take_append_drop _ _
    have hparts := congrArg (fun items : List α => (items : Multiset α)) hwhole
    simp only [← Multiset.coe_add] at hparts
    simp only [Operation.apply, hitems, Multiset.coe_nil, add_zero]
    rw [add_comm, ← hparts, add_comm]

theorem apply_balanced (operation : Operation α) (buffer : Buffer α) :
    Balanced buffer (operation.apply buffer).2 (operation.apply buffer).1 := by
  cases operation with
  | push item draws => exact push_balanced buffer item draws
  | restore older => exact restore_balanced buffer older
  | take =>
    refine ⟨0, rfl, ?_⟩
    simp [Operation.apply, take, empty]
  | clear =>
    refine ⟨0, rfl, ?_⟩
    simp [Operation.apply]

theorem history_balanced (buffer : Buffer α) (operations : List (Operation α)) :
    Balanced buffer (history buffer operations).2 (history buffer operations).1 := by
  induction operations generalizing buffer with
  | nil => exact Balanced.refl buffer
  | cons operation rest ih =>
    have hfirst := apply_balanced operation buffer
    exact hfirst.trans (ih (operation.apply buffer).1)

/-- The newest item is never the one that is given up, if there is a slot at all. -/
theorem mem_push_self (buffer : Buffer α) (item : α) (draws : List UInt64)
    (hmax : 0 < buffer.max) : item ∈ (buffer.push item draws).1.items := by
  rcases push_cases buffer item draws with
    ⟨hnone, _⟩ | ⟨_, hitems, _⟩ | ⟨_, hfull, hitems, _⟩
  · omega
  · rw [hitems]
    simp
  · have hslot : (Eviction.pick buffer.max draws).1 < buffer.items.length := by
      rw [hfull]
      exact Eviction.pick_lt hmax draws
    rw [hitems]
    exact List.mem_set hslot item

/-- A buffer without slots gives up each item that is pushed. -/
theorem push_of_max_zero (buffer : Buffer α) (item : α) (draws : List UInt64)
    (hmax : buffer.max = 0) :
    (buffer.push item draws).1 = buffer ∧ (buffer.push item draws).2.1 = true := by
  rcases push_cases buffer item draws with ⟨_, hpush⟩ | ⟨hroom, _⟩ | ⟨hpositive, _⟩
  · simp [hpush]
  · omega
  · omega

/-- A push into a full buffer changes one slot. -/
theorem push_full (buffer : Buffer α) (item : α) (draws : List UInt64)
    (hmax : 0 < buffer.max) (hfull : buffer.items.length = buffer.max) :
    (buffer.push item draws).2.1 = true ∧ ∃ slot < buffer.max, ∀ index,
      (buffer.push item draws).1.items[index]? =
        if index = slot then some item else buffer.items[index]? := by
  rcases push_cases buffer item draws with
    ⟨hnone, _⟩ | ⟨hroom, _, _⟩ | ⟨_, _, hitems, hdropped⟩
  · omega
  · omega
  · have hslot := Eviction.pick_lt hmax draws
    refine ⟨by rw [hdropped], (Eviction.pick buffer.max draws).1, hslot, fun index => ?_⟩
    rw [hitems, List.getElem?_set]
    by_cases hindex : index = (Eviction.pick buffer.max draws).1
    · simp [hindex, hfull, hslot]
    · simp [hindex, Ne.symm hindex]

/-- Over any history of a buffer, items are neither made nor copied, and they vanish only
by being given up, each of which is reported. The bound holds throughout, the newest item
is kept, and a full buffer makes room for it in one slot, if it has slots at all. -/
theorem items_accounted (max : Nat) (operations : List (Operation α)) :
    let last := (history (empty max) operations).1
    let traffic := (history (empty max) operations).2
    last.items.length ≤ max ∧
    (∃ lost : Multiset α, lost.card = traffic.overflows + traffic.excess ∧
      (traffic.given : Multiset α) = last.items + traffic.taken + traffic.cleared + lost) ∧
    ∀ item draws,
      (0 < max → item ∈ (last.push item draws).1.items) ∧
      (0 < max → last.items.length = max →
        (last.push item draws).2.1 = true ∧ ∃ slot < max, ∀ index,
          (last.push item draws).1.items[index]? =
            if index = slot then some item else last.items[index]?) ∧
      (max = 0 → (last.push item draws).1 = last ∧ (last.push item draws).2.1 = true) := by
  intro last traffic
  have hmax : last.max = max := max_history (empty max) operations
  obtain ⟨lost, hlost, hitems⟩ : Balanced (empty max) traffic last :=
    history_balanced (empty max) operations
  refine ⟨?_, ⟨lost, hlost, ?_⟩, fun item draws => ⟨?_, ?_, ?_⟩⟩
  · rw [← hmax]
    exact last.length_le
  · simpa [empty] using hitems
  · intro hpositive
    exact mem_push_self last item draws (by rw [hmax]; exact hpositive)
  · intro hpositive hfull
    have hpush := push_full last item draws (by rw [hmax]; exact hpositive)
      (by rw [hmax]; exact hfull)
    rw [hmax] at hpush
    exact hpush
  · intro hzero
    exact push_of_max_zero last item draws (by rw [hmax]; exact hzero)

/-- One item is given up for the third push and one for the snapshot, and one is about to
be given up for the ninth item. -/
def Mixed.operations : List (Operation Nat) :=
  [.push 1 [], .push 2 [], .push 3 [0x8000000000000000], .take, .push 4 [], .restore [5, 6],
    .clear, .push 7 [], .push 8 []]

theorem items_accounted_mixed :
    let last := (history (empty 2) Mixed.operations).1
    let traffic := (history (empty 2) Mixed.operations).2
    traffic = ⟨[1, 2, 3, 4, 5, 6, 7, 8], [1, 3], [6, 4], 1, 1⟩ ∧ last.items = [7, 8] ∧
    (∃ lost : Multiset Nat, lost.card = traffic.overflows + traffic.excess ∧
      (traffic.given : Multiset Nat) = last.items + traffic.taken + traffic.cleared + lost) ∧
    9 ∈ (last.push 9 [0]).1.items ∧
    (last.push 9 [0]).2.1 = true ∧ ∃ slot < 2, ∀ index,
      (last.push 9 [0]).1.items[index]? = if index = slot then some 9 else last.items[index]? := by
  intro last traffic
  obtain ⟨_, hitems, hpush⟩ := items_accounted 2 Mixed.operations
  obtain ⟨hnewest, hfull, _⟩ := hpush 9 [0]
  exact ⟨by decide +kernel, by decide +kernel, hitems, hnewest (by decide),
    hfull (by decide) (by decide +kernel)⟩

/-- A restore keeps the newest of the older and the held items together, in their order.
What it reports is what is missing, and of the items that were held none is. -/
theorem restore_suffix (buffer : Buffer α) (older : List α) :
    let total := older.length + buffer.items.length
    let restored := (buffer.restore older).1
    restored.items = (older ++ buffer.items).rtake (min buffer.max total) ∧
    restored.items.length = min buffer.max total ∧
    (buffer.restore older).2 = total - restored.items.length ∧
    buffer.items <:+ restored.items := by
  intro total restored
  have hlength := buffer.length_le
  have hitems : restored.items = (older ++ buffer.items).drop (total - buffer.max) :=
    restore_items buffer older
  have hkept : restored.items.length = min buffer.max total := by
    rw [hitems, List.length_drop, List.length_append]
    omega
  have hcut : total - min buffer.max total = total - buffer.max := by omega
  refine ⟨?_, hkept, ?_, ?_⟩
  · rw [hitems, List.rtake, List.length_append, hcut]
  · rw [hkept, hcut]
    exact restore_dropped buffer older
  · have hcovered : total - buffer.max ≤ older.length := by omega
    rw [hitems, List.drop_append_of_le_length hcovered]
    exact List.suffix_append _ _

/-- Two of the three older items give way to the two that came since. -/
example : ((⟨3, [10, 11], by decide⟩ : Buffer Nat).restore [1, 2, 3]).1.items = [3, 10, 11] := by
  decide

end Buffer

end Telemetry
