import Telemetry.Json.Reader
import Telemetry.Text.Quoted

/-!
Why a document is not a value of some kind, and readers of the simple kinds. A
reader looks at no more of the document than it has to: a list where a text is
due is refused at its bracket, whatever follows the bracket.
-/

namespace Telemetry.Json

inductive Found
  | null
  | bool (b : Bool)
  | number (n : Number)
  | string (s : String)
  | sequence
  | map

def Found.text : Found → String
  | .null => "null"
  | .bool b => s!"boolean `{b}`"
  | .number (.int n) => s!"integer `{n}`"
  | .number (.float x) => s!"floating point `{Double.text doubleLayout x}`"
  | .string s => "string " ++ Quoted.text s
  | .sequence => "sequence"
  | .map => "map"

inductive Mismatch
  | syntaxError (cause : Cause)
  | wrongType (found : Found) (expected : String)
  | wrongValue (found : Found) (expected : String)
  | wrongLength (length : Nat) (expected : String)
  | missingField (name : String)
  | duplicateField (name : String)
  | unknownVariant (name : String) (variants : List String)
  | refused (reason : String)

def ticked (name : String) : String :=
  "`" ++ name ++ "`"

/-- One name, two names with "or", or "one of" more names. -/
def alternatives : List String → String
  | [] => "there are no variants"
  | [a] => "expected " ++ ticked a
  | [a, b] => "expected " ++ ticked a ++ " or " ++ ticked b
  | names => "expected one of " ++ ", ".intercalate (names.map ticked)

def Mismatch.message : Mismatch → String
  | .syntaxError cause => cause.message
  | .wrongType found expected => s!"invalid type: {found.text}, expected {expected}"
  | .wrongValue found expected => s!"invalid value: {found.text}, expected {expected}"
  | .wrongLength length expected => s!"invalid length {length}, expected {expected}"
  | .missingField name => "missing field " ++ ticked name
  | .duplicateField name => "duplicate field " ++ ticked name
  | .unknownVariant name variants =>
    "unknown variant " ++ ticked name ++ ", " ++ alternatives variants
  | .refused reason => reason

abbrev Result := Except Mismatch

namespace Document

/-- What is there instead of the expected kind of value. -/
def mismatch (expected : String) : Document → Mismatch
  | .null => .wrongType .null expected
  | .bool b => .wrongType (.bool b) expected
  | .number (.ok n) => .wrongType (.number n) expected
  | .number (.error cause) => .syntaxError cause
  | .string (.ok s) => .wrongType (.string s) expected
  | .string (.error cause) => .syntaxError cause
  | .array _ _ => .wrongType .sequence expected
  | .object _ _ => .wrongType .map expected
  | .broken place => .syntaxError place.strict

def asString (expected : String) : Document → Result String
  | .string (.ok s) => .ok s
  | other => .error (other.mismatch expected)

def asText : Document → Result String :=
  asString "a string"

def asBool : Document → Result Bool
  | .bool b => .ok b
  | other => .error (other.mismatch "a boolean")

/-- A whole number between `low` and `high`. A number with a point is of the
wrong kind even if it is whole. -/
def asInt (kind : String) (low high : Int) : Document → Result Int
  | .number (.ok (.int n)) =>
    if low ≤ n ∧ n ≤ high then .ok n
    else .error (.wrongValue (.number (.int n)) kind)
  | other => .error (other.mismatch kind)

def asDouble : Document → Result Float
  | .number (.ok (.int n)) => .ok (Double.ofInt n)
  | .number (.ok (.float x)) => .ok x
  | other => .error (other.mismatch "f64")

def asOptional {α : Type} (read : Document → Result α) : Document → Result (Option α)
  | .null => .ok none
  | other => do
    let value ← read other
    return some value

/-- The items of a list, read one by one; then the list has to end well. -/
def readAll {α : Type} (read : Document → Result α) (stop : Option Break) :
    List Document → Result (List α)
  | [] =>
    match stop with
    | none => .ok []
    | some place => .error (.syntaxError place.strict)
  | item :: rest => do
    let value ← read item
    let values ← readAll read stop rest
    return value :: values

def asList {α : Type} (read : Document → Result α) : Document → Result (List α)
  | .array items stop => readAll read stop items
  | other => .error (other.mismatch "a sequence")

/-- The end of a list that was read for `count` items, with what is left of it. In
a text a comma there is only told apart from other marks when the bracket follows
it. -/
def closeList (source : Source) (count : Nat) (items : List Document)
    (stop : Option Break) : Result Unit :=
  match items, stop with
  | [], none => .ok ()
  | [], some place =>
    match place.strict with
    | .endInList => .error (.syntaxError .endInList)
    | .trailingComma => .error (.syntaxError .trailingComma)
    | _ => .error (.syntaxError .trailingCharacters)
  | _ :: _, _ =>
    match source with
    | .text => .error (.syntaxError .trailingCharacters)
    | .value => .error (.wrongLength (count + items.length) "fewer elements in array")

/-- Gives the members of an object, in text order, to `step` with their keys. -/
def walk {σ : Type} (step : σ → String → Document → Result σ) (stop : Option Break) :
    σ → List (Except Cause String × Document) → Result σ
  | state, [] =>
    match stop with
    | none => .ok state
    | some place => .error (.syntaxError place.strict)
  | _, (.error cause, _) :: _ => .error (.syntaxError cause)
  | state, (.ok key, value) :: rest => do
    let state ← step state key value
    walk step stop state rest

def pass (value : Document) : Result Unit :=
  match value.skip with
  | .ok () => .ok ()
  | .error cause => .error (.syntaxError cause)

def chosen {α : Type} (variants : List (String × α)) (name : String) : Result α :=
  match variants.lookup name with
  | some value => .ok value
  | none => .error (.unknownVariant name (variants.map (·.1)))

/-- No value begins after the key: its colon is not there. -/
def lacksColon (place : Break) : Bool :=
  place.strict = .expectedColon || place.strict = .endInObject

def asUnit : Document → Result Unit
  | .null => .ok ()
  | other => .error (other.mismatch "unit")

/-- The text of a name out of a list, as a text or as the only key of an object
whose value is null. Any other value is refused without being named. -/
def asVariantInText {α : Type} (variants : List (String × α)) : Document → Result α
  | .string (.ok name) => chosen variants name
  | .string (.error cause) => .error (.syntaxError cause)
  | .object [] none => .error (.syntaxError .expectedValue)
  | .object [] (some place) => .error (.syntaxError place.strict)
  | .object ((.error cause, _) :: _) _ => .error (.syntaxError cause)
  | .object ((.ok name, value) :: rest) stop => do
    let chosen ← chosen variants name
    value.asUnit
    match rest, stop with
    | [], none => .ok chosen
    | [], some place =>
      if place.rest.isEmpty ∧ place.strict = .endInObject then
        .error (.syntaxError .endInObject)
      else .error (.syntaxError .expectedValue)
    | _ :: _, _ => .error (.syntaxError .expectedValue)
  | .broken place =>
    if lacksColon place then .error (.syntaxError place.strict)
    else if place.rest.isEmpty then .error (.syntaxError .endInValue)
    else if place.rest.head? = some 34 then .error (.syntaxError place.strict)
    else .error (.syntaxError .expectedValue)
  | _ => .error (.syntaxError .expectedValue)

/-- A name out of a list in a value. An object has to have one key before the key
is looked at. -/
def asVariantInValue {α : Type} (variants : List (String × α)) : Document → Result α
  | .string (.ok name) => chosen variants name
  | .object [(.ok name, value)] none => do
    let chosen ← chosen variants name
    value.asUnit
    return chosen
  | .object _ _ => .error (.wrongValue .map "map with a single key")
  | other => .error (other.mismatch "string or map")

def asVariant {α : Type} (source : Source) (variants : List (String × α)) :
    Document → Result α :=
  match source with
  | .text => asVariantInText variants
  | .value => asVariantInValue variants

end Document

end Telemetry.Json
