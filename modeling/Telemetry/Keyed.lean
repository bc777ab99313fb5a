/-!
Finite maps from text as lists of pairs in strictly ascending key order. Text is
ordered by code point, which for UTF-8 is also the order of its octets.
-/

namespace Telemetry

abbrev Keyed (α : Type) := List (String × α)

namespace Keyed

variable {α : Type}

def Sorted (entries : Keyed α) : Prop :=
  entries.Pairwise fun a b => a.1 < b.1

def get? (key : String) : Keyed α → Option α
  | [] => none
  | (k, v) :: rest => if k = key then some v else get? key rest

/-- The value of `key` becomes `value`, whether or not it had one. -/
def insert (key : String) (value : α) : Keyed α → Keyed α
  | [] => [(key, value)]
  | (k, v) :: rest =>
    if key < k then (key, value) :: (k, v) :: rest
    else if key = k then (key, value) :: rest
    else (k, v) :: insert key value rest

/-- Leaves a key that has a value as it is. -/
def insertNew (key : String) (value : α) (entries : Keyed α) : Keyed α :=
  match get? key entries with
  | some _ => entries
  | none => insert key value entries

end Keyed

end Telemetry
