import Telemetry.Buffer

/-!
What a push and a restore do to the items of a buffer. A push tells whether it
gave an item up: if it did not, the new item stands behind the others, and if it
did, the buffer is as long as before. A snapshot that fits goes back into an
emptied buffer item by item, and nothing is given up for it.
-/

namespace Telemetry

/-- The upper half of a product with 64 random bits lies below the other factor. -/
theorem Eviction.slot_lt {slots : Nat} (hslots : 0 < slots) (draw : UInt64) :
    slot slots draw < slots := by
  have hdraw : draw.toNat < 0x10000000000000000 := draw.toNat_lt
  unfold slot
  apply Nat.div_lt_of_lt_mul
  exact Nat.mul_lt_mul_of_pos_right hdraw hslots

/-- Whatever is drawn, one of the slots is picked. -/
theorem Eviction.pick_lt {slots : Nat} (hslots : 0 < slots) (draws : List UInt64) :
    (pick slots draws).1 < slots := by
  induction draws with
  | nil => exact hslots
  | cons draw rest ih =>
    unfold pick
    split
    · exact slot_lt hslots draw
    · exact ih

attribute [ext] Buffer

namespace Buffer

variable {α β : Type}

/-- The same places with other items. -/
def map (buffer : Buffer α) (f : α → β) : Buffer β :=
  ⟨buffer.max, buffer.items.map f, by simpa using buffer.length_le⟩

@[simp] theorem map_items (buffer : Buffer α) (f : α → β) :
    (buffer.map f).items = buffer.items.map f := rfl

@[simp] theorem clear_items (buffer : Buffer α) : buffer.clear.items = [] := rfl

@[simp] theorem clear_max (buffer : Buffer α) : buffer.clear.max = buffer.max := rfl

@[simp] theorem clear_clear (buffer : Buffer α) : buffer.clear.clear = buffer.clear := rfl

theorem isEmpty_iff (buffer : Buffer α) : buffer.isEmpty = true ↔ buffer.items = [] := by
  unfold isEmpty
  exact List.isEmpty_iff

/-- The three outcomes of a push: there is no place at all, there is a free one,
or the item takes the place of another. -/
theorem push_cases (buffer : Buffer α) (item : α) (draws : List UInt64) :
    (buffer.max = 0 ∧ buffer.push item draws = (buffer, true, draws)) ∨
    (buffer.items.length < buffer.max ∧
      (buffer.push item draws).1.items = buffer.items ++ [item] ∧
      (buffer.push item draws).2 = (false, draws)) ∨
    (0 < buffer.max ∧ buffer.items.length = buffer.max ∧
      (buffer.push item draws).1.items =
        buffer.items.set (Eviction.pick buffer.max draws).1 item ∧
      (buffer.push item draws).2 = (true, (Eviction.pick buffer.max draws).2)) := by
  have hlength := buffer.length_le
  unfold push
  by_cases hmax : buffer.max = 0
  · exact Or.inl ⟨hmax, by simp [hmax]⟩
  · by_cases hroom : buffer.items.length < buffer.max
    · exact Or.inr (Or.inl ⟨hroom, by simp [hmax, hroom], by simp [hmax, hroom]⟩)
    · refine Or.inr (Or.inr ⟨by omega, by omega, ?_, ?_⟩)
      · simp [hmax, hroom]
      · simp [hmax, hroom]

@[simp] theorem push_max (buffer : Buffer α) (item : α) (draws : List UInt64) :
    (buffer.push item draws).1.max = buffer.max := by
  unfold push
  split
  · rfl
  · split
    · rfl
    · rfl

theorem push_items_of_kept (buffer : Buffer α) (item : α) (draws : List UInt64)
    (hkept : (buffer.push item draws).2.1 = false) :
    (buffer.push item draws).1.items = buffer.items ++ [item] := by
  rcases push_cases buffer item draws with ⟨_, hpush⟩ | ⟨_, hitems, _⟩ | ⟨_, _, _, hdropped⟩
  · rw [hpush] at hkept
    cases hkept
  · exact hitems
  · rw [hdropped] at hkept
    cases hkept

/-- Whatever becomes of the other items, a push brings in no item but its own. -/
theorem mem_push (buffer : Buffer α) (item : α) (draws : List UInt64) (a : α)
    (hmember : a ∈ (buffer.push item draws).1.items) : a ∈ buffer.items ∨ a = item := by
  rcases push_cases buffer item draws with
    ⟨_, hpush⟩ | ⟨_, hitems, _⟩ | ⟨_, _, hitems, _⟩
  · rw [hpush] at hmember
    exact Or.inl hmember
  · rw [hitems] at hmember
    simpa using hmember
  · rw [hitems] at hmember
    exact List.mem_or_eq_of_mem_set hmember

/-- Either there is one item more, or one was given up. -/
theorem push_length (buffer : Buffer α) (item : α) (draws : List UInt64) :
    (buffer.push item draws).1.items.length + (buffer.push item draws).2.1.toNat =
      buffer.items.length + 1 := by
  rcases push_cases buffer item draws with
    ⟨_, hpush⟩ | ⟨_, hitems, hkept⟩ | ⟨_, _, hitems, hdropped⟩
  · rw [hpush]
    rfl
  · rw [hitems, hkept]
    simp
  · rw [hitems, hdropped]
    simp

@[simp] theorem restore_max (buffer : Buffer α) (older : List α) :
    (buffer.restore older).1.max = buffer.max := by
  unfold restore
  dsimp only
  split
  · rfl
  · rfl

theorem restore_dropped (buffer : Buffer α) (older : List α) :
    (buffer.restore older).2 = older.length + buffer.items.length - buffer.max := by
  unfold restore
  dsimp only
  split
  · rfl
  · rfl

/-- Both ways of restoring cut off the front. If nothing of the snapshot is left, the
items that were held before all fit, so the cut ends between the two. -/
theorem restore_items (buffer : Buffer α) (older : List α) :
    (buffer.restore older).1.items =
      (older ++ buffer.items).drop (older.length + buffer.items.length - buffer.max) := by
  have hlength := buffer.length_le
  have hheld : buffer.items.length - buffer.max = 0 := by omega
  unfold restore
  dsimp only
  split
  case isTrue hnone =>
    have hcut : older.length + buffer.items.length - buffer.max = older.length := by omega
    simp only [hheld, hcut, List.drop_zero, List.drop_left]
  case isFalse hsome =>
    have hcut : older.length + buffer.items.length - buffer.max ≤ older.length := by omega
    rw [List.drop_append_of_le_length hcut]

/-- Nothing is lost when a snapshot that fits is put back into an empty buffer,
also if it is empty itself or fills the buffer to the last place. -/
theorem restore_clear (buffer : Buffer α) (older : List α)
    (hfits : older.length ≤ buffer.max) :
    buffer.clear.restore older = (⟨buffer.max, older, hfits⟩, 0) := by
  have hexcess : older.length - buffer.max = 0 := by omega
  unfold restore
  simp only [clear_items, clear_max, List.length_nil, Nat.add_zero, hexcess]
  by_cases hnone : older.length ≤ 0
  · have holder : older = [] := List.eq_nil_of_length_eq_zero (Nat.le_zero.mp hnone)
    subst older
    simp
  · simp [hnone]

end Buffer

end Telemetry
