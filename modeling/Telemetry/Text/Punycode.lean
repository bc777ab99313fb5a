/-!
Names of hosts spelled in ASCII: the plain characters first, and after the last
hyphen numbers that say which other characters go in between and where. A number has
digits of base 36, the lowest first, and ends with a digit below a threshold that
adapts to the numbers before it.
-/

namespace Telemetry.Punycode

def digit? (c : Char) : Option Nat :=
  if 'a' ≤ c ∧ c ≤ 'z' then some (c.toNat - 97)
  else if 'A' ≤ c ∧ c ≤ 'Z' then some (c.toNat - 65)
  else if '0' ≤ c ∧ c ≤ '9' then some (c.toNat - 48 + 26)
  else none

/-- The threshold of the digit at `place`, where places go up in steps of 36. -/
def threshold (place bias : Nat) : Nat :=
  max 1 (min 26 (place - bias))

/-- Divides a step down to 455, counting a place for each division. -/
def settle (step place : Nat) : Nat × Nat :=
  if 455 < step then settle (step / 35) (place + 36) else (step, place)
termination_by step
decreasing_by exact Nat.div_lt_self (by omega) (by omega)

/-- The bias after a number `step` that brought in character number `count`. -/
def adapt (step count : Nat) (isFirst : Bool) : Nat :=
  let step := if isFirst then step / 700 else step / 2
  let (step, place) := settle (step + step / count) 0
  place + 36 * step / (step + 38)

/-- What is read so far: the characters, the place and the code of the next one, and
the number that is being read. -/
structure Progress where
  chars : List Char
  position : Nat := 0
  code : Nat := 128
  bias : Nat := 72
  number : Nat := 0
  weight : Nat := 1
  place : Nat := 36

namespace Progress

/-- Puts in the character that the number stands for. -/
def settled? (p : Progress) (number : Nat) : Option Progress :=
  let count := p.chars.length + 1
  let sum := p.position + number
  let code := p.code + sum / count
  if code.isValidChar then
    some {
      chars := p.chars.insertIdx (sum % count) (Char.ofNat code)
      position := sum % count + 1
      code := code
      bias := adapt number count (p.code = 128 ∧ p.position = 0) }
  else none

def read? (p : Progress) (c : Char) : Option Progress := do
  let digit ← digit? c
  let number := p.number + digit * p.weight
  let limit := threshold p.place p.bias
  if digit < limit then p.settled? number
  else some { p with number, weight := p.weight * (36 - limit), place := p.place + 36 }

end Progress

/-- The name that a text spells. A number that is cut short spells nothing. -/
def decode? (text : List Char) : Option (List Char) := do
  let numbers := (text.reverse.takeWhile (· ≠ '-')).reverse
  let plain := text.take (text.length - numbers.length - 1)
  let p ← numbers.foldlM Progress.read? { chars := plain }
  if p.weight = 1 then some p.chars else none

end Telemetry.Punycode
