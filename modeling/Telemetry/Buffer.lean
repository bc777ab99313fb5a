import Telemetry.Eviction

/-!
A buffer of at most `max` items that never refuses the newest one. Pushing into a
full buffer puts the new item into a random slot and gives up the item there.
Restoring puts older items in front again and gives up the oldest.
-/

namespace Telemetry

structure Buffer (α : Type) where
  max : Nat
  items : List α
  length_le : items.length ≤ max

namespace Buffer

variable {α : Type}

def empty (max : Nat) : Buffer α :=
  ⟨max, [], Nat.zero_le max⟩

def length (buffer : Buffer α) : Nat :=
  buffer.items.length

def isEmpty (buffer : Buffer α) : Bool :=
  buffer.items.isEmpty

/-- The buffer after a push, whether an item was given up (the new one if there
is no slot at all), and the draws left. -/
def push (buffer : Buffer α) (item : α) (draws : List UInt64) :
    Buffer α × Bool × List UInt64 :=
  if buffer.max = 0 then (buffer, true, draws)
  else if room : buffer.items.length < buffer.max then
    (⟨buffer.max, buffer.items ++ [item], by
      simp only [List.length_append, List.length_singleton]
      omega⟩, false, draws)
  else
    let (slot, draws) := Eviction.pick buffer.max draws
    (⟨buffer.max, buffer.items.set slot item, by simpa using buffer.length_le⟩, true, draws)

/-- The buffer after a push of each item, how many items were given up, and the
draws left. -/
def pushAll (buffer : Buffer α) (draws : List UInt64) :
    List α → Buffer α × Nat × List UInt64
  | [] => (buffer, 0, draws)
  | item :: items =>
    let (buffer, dropped, draws) := buffer.push item draws
    let (buffer, later, draws) := pushAll buffer draws items
    (buffer, later + dropped.toNat, draws)

/-- The newest items of `older ++ items` that fit, and how many did not. -/
def restore (buffer : Buffer α) (older : List α) : Buffer α × Nat :=
  let excess := older.length + buffer.items.length - buffer.max
  if none : older.length ≤ excess then
    let keepFrom := buffer.items.length - buffer.max
    (⟨buffer.max, buffer.items.drop keepFrom, by
      have := buffer.length_le
      simp only [List.length_drop]
      omega⟩, excess)
  else
    (⟨buffer.max, older.drop excess ++ buffer.items, by
      have := buffer.length_le
      simp only [List.length_append, List.length_drop]
      omega⟩, excess)

def take (buffer : Buffer α) : List α × Buffer α :=
  (buffer.items, empty buffer.max)

def clear (buffer : Buffer α) : Buffer α :=
  empty buffer.max

end Buffer

end Telemetry
