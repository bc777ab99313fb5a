import Telemetry.Json.Mismatch
import Telemetry.Keyed

/-!
JSON text as a value of any kind. Members of an object are kept in key order and
the last of several with one key counts. Nesting is limited.
-/

namespace Telemetry.Json

/-- Brackets may be nested one less deep than this. -/
def nestingLimit : Nat := 128

mutual

def ofDocument (room : Nat) : Document → Result Json
  | .null => .ok .null
  | .bool b => .ok (.bool b)
  | .number (.ok n) => .ok (.number n)
  | .number (.error cause) => .error (.syntaxError cause)
  | .string (.ok s) => .ok (.string s)
  | .string (.error cause) => .error (.syntaxError cause)
  | .array items stop =>
    if room ≤ 1 then .error (.syntaxError .tooDeep)
    else do
      let items ← ofItems (room - 1) stop items
      return .array items
  | .object members stop =>
    if room ≤ 1 then .error (.syntaxError .tooDeep)
    else do
      let members ← ofMembers (room - 1) stop [] members
      return .object members
  | .broken place => .error (.syntaxError place.strict)

def ofItems (room : Nat) (stop : Option Break) : List Document → Result (List Json)
  | [] =>
    match stop with
    | none => .ok []
    | some place => .error (.syntaxError place.strict)
  | item :: rest => do
    let value ← ofDocument room item
    let values ← ofItems room stop rest
    return value :: values

def ofMembers (room : Nat) (stop : Option Break) (done : Keyed Json) :
    List (Except Cause String × Document) → Result (Keyed Json)
  | [] =>
    match stop with
    | none => .ok done
    | some place => .error (.syntaxError place.strict)
  | (.error cause, _) :: _ => .error (.syntaxError cause)
  | (.ok key, value) :: rest => do
    let value ← ofDocument room value
    ofMembers room stop (done.insert key value) rest

end

def parse (octets : List UInt8) : Result Json :=
  readText octets .syntaxError (ofDocument nestingLimit)

end Telemetry.Json
