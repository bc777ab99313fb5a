import Telemetry.Json.Value

/-!
Payloads of log records: any JSON value, written as text if its nesting is
within a limit. The check stops where the answer is known, so a deep payload
costs no more than the limit.
-/

namespace Telemetry

open Json

inductive PayloadError
  | tooDeep (max : Nat)
  | encode (reason : String)
  deriving DecidableEq, Repr

def PayloadError.message : PayloadError → String
  | .tooDeep max => s!"payload nesting exceeds maximum depth {max}"
  | .encode reason => s!"payload encoding failed: {reason}"

namespace Payload

mutual

/-- The number of brackets around the innermost value. -/
def nesting : Json → Nat
  | .array items => 1 + itemNesting items
  | .object members => 1 + memberNesting members
  | _ => 0

def itemNesting : List Json → Nat
  | [] => 0
  | item :: rest => max (nesting item) (itemNesting rest)

def memberNesting : List (String × Json) → Nat
  | [] => 0
  | (_, value) :: rest => max (nesting value) (memberNesting rest)

end

/-- No limit is never exceeded. -/
def exceeds (depth : Nat) : Option Nat → Bool
  | none => false
  | some limit => depth > limit

mutual

/-- The nesting as far as it is needed to tell whether it exceeds the limit. A
container where the limit is zero exceeds it whatever it holds. -/
def boundedDepth (limit : Option Nat) : Json → Nat
  | .array items =>
    if limit = some 0 then 1 else 1 + deepestItem (limit.map (· - 1)) 0 items
  | .object members =>
    if limit = some 0 then 1 else 1 + deepestMember (limit.map (· - 1)) 0 members
  | _ => 0

/-- Looks at children until one is known to be too deep. -/
def deepestItem (limit : Option Nat) (deepest : Nat) : List Json → Nat
  | [] => deepest
  | item :: rest =>
    let deepest := max deepest (boundedDepth limit item)
    if exceeds deepest limit then deepest else deepestItem limit deepest rest

def deepestMember (limit : Option Nat) (deepest : Nat) : List (String × Json) → Nat
  | [] => deepest
  | (_, value) :: rest =>
    let deepest := max deepest (boundedDepth limit value)
    if exceeds deepest limit then deepest else deepestMember limit deepest rest

end

def depth (value : Json) : Nat :=
  boundedDepth none value

def encode (value : Json) (maxDepth : Nat) : Except PayloadError String :=
  if boundedDepth (some maxDepth) value > maxDepth then .error (.tooDeep maxDepth)
  else .ok value.text

end Payload

end Telemetry
