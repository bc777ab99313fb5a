import Telemetry.Number.Shortest

/-!
Double-precision numbers: their exact value, their text, and their value as it
is read from decimal digits. Reading keeps as many leading digits as 64 bits
hold and scales once by a power of ten, so its last bit may be off; a reader
that is compared digit for digit has to round where this one rounds.
-/

namespace Telemetry.Double

/-- The exact magnitude `mantissa * 2 ^ exponent` of a finite number. -/
structure Magnitude where
  mantissa : Nat
  exponent : Int
  deriving DecidableEq, Repr

def isNegative (x : Float) : Bool :=
  x.toBits.toNat ≥ 0x8000000000000000

def fraction (x : Float) : Nat :=
  x.toBits.toNat % 0x10000000000000

def biased (x : Float) : Nat :=
  x.toBits.toNat / 0x10000000000000 % 0x800

/-- None for an infinity and for what is not a number. -/
def magnitude? (x : Float) : Option Magnitude :=
  if biased x = 2047 then none
  else if biased x = 0 then some ⟨fraction x, -1074⟩
  else some ⟨0x10000000000000 + fraction x, (biased x : Int) - 1075⟩

/-- How a number is laid out: where its decimal point may stand for the plain
form, what follows a whole number, whether a positive exponent has a sign, and
which digits are taken of two choices that are equally near. -/
structure Layout where
  plain : Int → Bool
  whole : String
  exponentPlus : String
  tie : Tie

def zeros (n : Nat) : String :=
  String.ofList (List.replicate n '0')

/-- The digits with the point after the first `point` of them, zeros filled in
on either side. -/
def plainText (layout : Layout) (digits : String) (point : Int) : String :=
  let count := digits.length
  if point ≤ 0 then
    "0." ++ zeros (-point).toNat ++ digits
  else if point.toNat < count then
    String.ofList (digits.toList.take point.toNat) ++ "." ++
      String.ofList (digits.toList.drop point.toNat)
  else
    digits ++ zeros (point.toNat - count) ++ layout.whole

def exponentText (layout : Layout) (digits : String) (point : Int) : String :=
  let power := point - 1
  let sign := if power < 0 then "-" else layout.exponentPlus
  let lead := String.ofList (digits.toList.take 1)
  let tail := String.ofList (digits.toList.drop 1)
  lead ++ (if tail.isEmpty then "" else "." ++ tail) ++ "e" ++ sign ++ toString power.natAbs

/-- The fewest digits that read back, in the given layout. -/
def text (layout : Layout) (x : Float) : String :=
  let sign := if isNegative x then "-" else ""
  match magnitude? x with
  | none => if fraction x = 0 then sign ++ "inf" else "NaN"
  | some size =>
    if size.mantissa = 0 then sign ++ "0" ++ layout.whole
    else
      let closeBelow := fraction x = 0 && biased x > 1
      let decimal :=
        (⟨size.mantissa, size.exponent, closeBelow⟩ : Dyadic.Neighbourhood).shortest layout.tie
      let digits := toString decimal.digits
      let point := digits.length + decimal.exponent
      sign ++ if layout.plain point then plainText layout digits point
        else exponentText layout digits point

/-- Every number is written out in full, and a whole one without a point. -/
def fullLayout : Layout :=
  ⟨fun _ => true, "", "", .up⟩

def tenTo (power : Nat) : Float :=
  Float.ofScientific 1 false power

/-- `x * 10 ^ power`, rounded at each step, or none past the largest number.
Powers of ten end at 308; a smaller one is reached in several divisions. -/
def scale? (x : Float) (power : Int) : Option Float :=
  if power.natAbs ≤ 308 then
    if 0 ≤ power then
      let scaled := x * tenTo power.natAbs
      if scaled.isInf then none else some scaled
    else
      some (x / tenTo power.natAbs)
  else if x == 0 then some x
  else if 0 ≤ power then none
  else scale? (x / tenTo 308) (power + 308)
termination_by power.natAbs
decreasing_by omega

/-- Digits appended to a number while it fits 64 bits, and how many were left
over. Once one does not fit, none of the later ones is looked at. -/
def accumulate (start : Nat) : List Nat → Nat × Nat
  | [] => (start, 0)
  | d :: rest =>
    if start * 10 + d < 0x10000000000000000 then accumulate (start * 10 + d) rest
    else (start, rest.length + 1)

/-- The number written with these digits before and after the point and this
exponent; none if it is too large. An exponent past 31 bits makes a zero of
what it does not make too large. -/
def ofDigits? (negative : Bool) (whole fraction : List Nat) (exponent : Int) :
    Option Float :=
  let (head, dropped) := accumulate 0 whole
  let (significand, unread) := accumulate head fraction
  let signed (x : Float) : Float := if negative then -x else x
  if exponent.natAbs ≥ 0x80000000 then
    if significand ≠ 0 ∧ 0 ≤ exponent then none else some (signed 0)
  else
    let kept := fraction.length - unread
    let power := (dropped : Int) - kept + exponent
    (scale? (UInt64.ofNat significand).toFloat power).map signed

/-- A whole number of at most 64 bits, rounded. -/
def ofInt (n : Int) : Float :=
  let size := (UInt64.ofNat n.natAbs).toFloat
  if n < 0 then -size else size

end Telemetry.Double
