/-!
Which slot of a full buffer is given up. A draw of 64 random bits is multiplied
by the number of slots; the upper half of the product is the slot, and a draw
whose lower half lies past the zone is discarded, since the slots would not be
equally likely otherwise.
-/

namespace Telemetry.Eviction

/-- The zone ends before the largest multiple of `slots` by a power of two that
64 bits hold. -/
def zone (slots : Nat) : Nat :=
  slots <<< (63 - slots.log2) - 1

def accepts (slots : Nat) (draw : UInt64) : Bool :=
  draw.toNat * slots % 0x10000000000000000 ≤ zone slots

def slot (slots : Nat) (draw : UInt64) : Nat :=
  draw.toNat * slots / 0x10000000000000000

/-- Takes draws until one is accepted. A list of draws that is used up stands
for zeros, which are always accepted and give the first slot. -/
def pick (slots : Nat) : List UInt64 → Nat × List UInt64
  | [] => (0, [])
  | draw :: rest =>
    if accepts slots draw then (slot slots draw, rest) else pick slots rest

end Telemetry.Eviction
