/-!
The fewest decimal digits that read back as the same binary number. Among the
decimals with that many digits the nearest one is taken. All arithmetic is on
natural numbers, so nothing is lost on the way.
-/

namespace Telemetry

/-- The number `digits * 10 ^ exponent`. -/
structure Decimal where
  digits : Nat
  exponent : Int
  deriving DecidableEq, Repr

/-- A positive binary number `mantissa * 2 ^ exponent`. `closeBelow` says that
the gap to the next smaller number is half the gap to the next larger one. -/
structure Dyadic.Neighbourhood where
  mantissa : Nat
  exponent : Int
  closeBelow : Bool
  deriving DecidableEq, Repr

/-- Which of two decimals is taken that are equally near. -/
inductive Tie
  | toEven
  | up
  deriving DecidableEq, Repr

namespace Dyadic.Neighbourhood

/-- The numbers that round to this one lie between `low` and `high`, all in
units of `2 ^ (exponent - 2)`; the ends belong to them iff the mantissa is even. -/
def low (n : Neighbourhood) : Nat :=
  4 * n.mantissa - if n.closeBelow then 1 else 2

def high (n : Neighbourhood) : Nat :=
  4 * n.mantissa + 2

/-- Factors that make the grid of multiples of `10 ^ power` and the units of
`low` and `high` whole: a bound is multiplied by the first, a grid point by the
second. -/
def factors (n : Neighbourhood) (power : Int) : Nat × Nat :=
  let unit := n.exponent - 2
  (Nat.pow 2 unit.toNat * Nat.pow 10 (-power).toNat,
    Nat.pow 2 (-unit).toNat * Nat.pow 10 power.toNat)

def contains (n : Neighbourhood) (power : Int) (point : Nat) : Bool :=
  let (bound, grid) := n.factors power
  let at' := point * grid
  if n.mantissa % 2 = 0 then n.low * bound ≤ at' && at' ≤ n.high * bound
  else n.low * bound < at' && at' < n.high * bound

/-- The nearest point of one grid that rounds to the number, if any does. Only the
two points beside the number can be nearest. -/
def onGrid? (n : Neighbourhood) (tie : Tie) (power : Int) : Option Nat :=
  let (bound, grid) := n.factors power
  let exact := 4 * n.mantissa * bound
  let below := exact / grid
  let above := below + 1
  match n.contains power below, n.contains power above with
  | true, true =>
    let down := exact - below * grid
    let up := above * grid - exact
    if down < up ∨ down = up ∧ tie = .toEven ∧ below % 2 = 0 then some below
    else some above
  | true, false => some below
  | false, true => some above
  | false, false => none

def search (n : Neighbourhood) (tie : Tie) : Nat → Int → Decimal
  | 0, power => ⟨0, power⟩
  | steps + 1, power =>
    match n.onGrid? tie power with
    | some digits => ⟨digits, power⟩
    | none => search n tie steps (power - 1)

/-- The coarsest grid that has a point for the number. The first power tried is
above the number itself, and seventeen digits always suffice. -/
def shortest (n : Neighbourhood) (tie : Tie) : Decimal :=
  let magnitude := (n.mantissa.log2 + 1 : Int) + n.exponent
  n.search tie 24 (magnitude * 30103 / 100000 + 2)

end Dyadic.Neighbourhood

end Telemetry
