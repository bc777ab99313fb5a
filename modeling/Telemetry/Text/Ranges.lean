/-!
Sets of characters, written as ranges of their codes. Both ends belong to a range.
-/

namespace Telemetry

abbrev Ranges := List (Nat × Nat)

def Ranges.has (ranges : Ranges) (c : Char) : Bool :=
  ranges.any fun (first, last) => first ≤ c.toNat && c.toNat ≤ last

end Telemetry
