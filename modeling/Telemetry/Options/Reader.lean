import Telemetry.Json.Mismatch
import Telemetry.Options

/-!
Options read from JSON. An object gives any of the options in any order and may
hold members of other names; a list gives the options in their declared order up
to any point. What is not given keeps its default, one level down as well.
-/

namespace Telemetry

open Json Json.Document

/-- An option that a text may give: its name, and what a value changes. -/
structure Setting (σ : Type) where
  name : String
  read : Document → Result (σ → σ)

namespace Setting

variable {σ : Type}

/-- The settings together with the names that were given so far. -/
structure Progress (σ : Type) where
  value : σ
  given : List String

/-- A setting that is given twice is refused before its second value is read. -/
def step (settings : List (Setting σ)) (progress : Progress σ) (key : String)
    (document : Document) : Result (Progress σ) :=
  match settings.find? (·.name = key) with
  | none => do
    document.pass
    return progress
  | some setting =>
    if progress.given.contains key then .error (.duplicateField key)
    else do
      let change ← setting.read document
      return ⟨change progress.value, key :: progress.given⟩

/-- Takes settings from a list, of which `position` are read already. -/
def readItems (source : Source) (stop : Option Break) :
    List (Setting σ) → (position : Nat) → σ → List Document → Result σ
  | [], position, value, items => do
    closeList source position items stop
    return value
  | _ :: _, _, value, [] =>
    match stop with
    | none => .ok value
    | some place => .error (.syntaxError place.strict)
  | setting :: settings, position, value, item :: items => do
    let change ← setting.read item
    readItems source stop settings (position + 1) (change value) items

def readAll (source : Source) (settings : List (Setting σ)) (kind : String) (default : σ) :
    Document → Result σ
  | .object members stop => do
    let progress ← walk (step settings) stop ⟨default, []⟩ members
    return progress.value
  | .array items stop => readItems source stop settings 0 default items
  | other => .error (other.mismatch kind)

def of {α : Type} (name : String) (read : Document → Result α) (set : σ → α → σ) :
    Setting σ where
  name
  read document := do
    let value ← read document
    return fun settings => set settings value

end Setting

def asSize : Document → Result Nat := fun document => do
  let n ← document.asInt "usize" 0 0xffffffffffffffff
  return n.toNat

def asPort : Document → Result Nat := fun document => do
  let n ← document.asInt "u16" 0 0xffff
  return n.toNat

def asAttempts : Document → Result Nat := fun document => do
  let n ← document.asInt "u32" 0 0xffffffff
  return n.toNat

def asDuration : Document → Result Duration := fun document => do
  let seconds ← document.asDouble
  match Duration.ofSeconds seconds with
  | .ok duration => .ok duration
  | .error refusal => .error (.refused refusal.message)

def TransportKind.variants : List (String × TransportKind) :=
  [TransportKind.fireAndForget, .http].map fun kind => (kind.name, kind)

def DeliveryGuarantee.variants : List (String × DeliveryGuarantee) :=
  [DeliveryGuarantee.clearOnSend, .retainUntilAcknowledged].map fun kind => (kind.name, kind)

def ConnectOptions.settings : List (Setting ConnectOptions) := [
  .of "connect_timeout" asDuration fun o v => { o with connectTimeout := v },
  .of "connect_attempts" asAttempts fun o v => { o with connectAttempts := v },
  .of "max_bytes_per_write" asSize fun o v => { o with maxBytesPerWrite := v }]

def ConnectOptions.ofDocument (source : Source) : Document → Result ConnectOptions :=
  Setting.readAll source settings "struct ConnectConfig" {}

def Options.settings (source : Source) : List (Setting Options) := [
  .of "service_host" asText fun o v => { o with serviceHost := v },
  .of "service_port" (asOptional asPort) fun o v => { o with servicePort := v },
  .of "service_path" asText fun o v => { o with servicePath := v },
  .of "secure" asBool fun o v => { o with secure := v },
  .of "max_log_records" asSize fun o v => { o with maxLogRecords := v },
  .of "max_span_records" asSize fun o v => { o with maxSpanRecords := v },
  .of "reporting_period_secs" asDuration fun o v => { o with reportingPeriod := v },
  .of "max_payload_depth" asSize fun o v => { o with maxPayloadDepth := v },
  .of "debug" asBool fun o v => { o with debug := v },
  .of "group_name" (asOptional asText) fun o v => { o with groupName := v },
  .of "access_token" (asOptional asText) fun o v => { o with accessToken := v },
  .of "transport" (asVariant source TransportKind.variants) fun o v => { o with transport := v },
  .of "delivery" (asVariant source DeliveryGuarantee.variants) fun o v =>
    { o with delivery := v },
  .of "connect" (ConnectOptions.ofDocument source) fun o v => { o with connect := v }]

def Options.ofDocument (source : Source) : Document → Result Options :=
  Setting.readAll source (settings source) "struct RuntimeOptions" {}

def Options.parse (octets : List UInt8) : Result Options :=
  readText octets .syntaxError (Options.ofDocument .text)

end Telemetry
