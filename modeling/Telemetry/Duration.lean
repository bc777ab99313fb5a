import Telemetry.Number.Double

/-!
Spans of time in seconds and nanoseconds, as far as 64 bits of seconds reach.
-/

namespace Telemetry

structure Duration where
  secs : Nat
  nanos : Nat
  deriving DecidableEq, Repr

namespace Duration

def nanosPerSec : Nat := 1000000000

/-- Whole seconds fit 64 bits and the nanoseconds stay below a second. -/
def Valid (d : Duration) : Prop :=
  d.secs < 0x10000000000000000 ∧ d.nanos < nanosPerSec

def ofSecs (secs : Nat) : Duration :=
  ⟨secs, 0⟩

def ofMillis (millis : Nat) : Duration :=
  ⟨millis / 1000, millis % 1000 * 1000000⟩

def isZero (d : Duration) : Bool :=
  d.secs = 0 && d.nanos = 0

def totalNanos (d : Duration) : Nat :=
  d.secs * nanosPerSec + d.nanos

/-- The sum, if its seconds still fit 64 bits. -/
def add? (a b : Duration) : Option Duration :=
  let nanos := a.nanos + b.nanos
  let secs := a.secs + b.secs + nanos / nanosPerSec
  if secs < 0x10000000000000000 then some ⟨secs, nanos % nanosPerSec⟩ else none

/-- Seconds with as many places as are needed. -/
def text (d : Duration) : String :=
  let digits := (toString (nanosPerSec + d.nanos)).toList.drop 1
  let places := (digits.reverse.dropWhile (· = '0')).reverse
  toString d.secs ++ (if places.isEmpty then "" else "." ++ String.ofList places) ++ "s"

/-- The latest instant that a signed 64-bit count of microseconds can name. -/
def lastMicros : Int := 0x7fffffffffffffff

/-- Whole microseconds, no later than the latest instant. -/
def micros (d : Duration) : Int :=
  min (d.totalNanos / 1000 : Nat) lastMicros

inductive Refusal
  | negative
  | tooLarge
  deriving DecidableEq, Repr

def Refusal.message : Refusal → String
  | .negative => "cannot convert float seconds to Duration: value is negative"
  | .tooLarge =>
    "cannot convert float seconds to Duration: value is either too big or NaN"

/-- `size` times `10 ^ 9`, rounded to a whole number, a half going to the even
neighbour. -/
def roundedNanos (size : Double.Magnitude) : Nat :=
  let scaled := (size.mantissa * nanosPerSec) <<< size.exponent.toNat
  let unit := 1 <<< (-size.exponent).toNat
  let below := scaled / unit
  let left := scaled % unit
  if 2 * left > unit ∨ 2 * left = unit ∧ below % 2 = 1 then below + 1 else below

/-- The duration of a number of seconds to the nearest nanosecond. -/
def ofSeconds (x : Float) : Except Refusal Duration :=
  match Double.magnitude? x with
  | none =>
    if Double.fraction x = 0 ∧ Double.isNegative x then .error .negative
    else .error .tooLarge
  | some size =>
    if Double.isNegative x ∧ size.mantissa ≠ 0 then .error .negative
    else
      let nanos := roundedNanos size
      if nanos < 0x10000000000000000 * nanosPerSec then
        .ok ⟨nanos / nanosPerSec, nanos % nanosPerSec⟩
      else .error .tooLarge

end Duration

end Telemetry
