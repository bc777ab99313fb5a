import Telemetry.Duration
import Telemetry.Identity

/-!
How a recorder is set up. Every option has a default; validity is checked when a
recorder is made, not when an option is set.
-/

namespace Telemetry

inductive TransportKind
  | fireAndForget
  | http
  deriving DecidableEq, Repr

def TransportKind.name : TransportKind → String
  | .fireAndForget => "fire_and_forget"
  | .http => "http"

/-- What becomes of a report whose delivery is known to have failed. -/
inductive DeliveryGuarantee
  | clearOnSend
  | retainUntilAcknowledged
  deriving DecidableEq, Repr

def DeliveryGuarantee.name : DeliveryGuarantee → String
  | .clearOnSend => "clear_on_send"
  | .retainUntilAcknowledged => "retain_until_acknowledged"

structure ConnectOptions where
  connectTimeout : Duration := .ofSecs 1
  connectAttempts : Nat := 1
  maxBytesPerWrite : Nat := 8192
  deriving DecidableEq, Repr

structure Options where
  serviceHost : String := "api.traceguide.io"
  servicePort : Option Nat := none
  servicePath : String := "/_rpc/v1/crouton/binary"
  secure : Bool := true
  maxLogRecords : Nat := 1000
  maxSpanRecords : Nat := 1000
  reportingPeriod : Duration := .ofSecs 5
  maxPayloadDepth : Nat := 10
  debug : Bool := false
  groupName : Option String := none
  accessToken : Option String := none
  transport : TransportKind := .fireAndForget
  delivery : DeliveryGuarantee := .clearOnSend
  connect : ConnectOptions := {}
  deriving DecidableEq, Repr

namespace Options

def securePort : Nat := 9997

def plainPort : Nat := 9998

def effectivePort (options : Options) : Nat :=
  options.servicePort.getD (if options.secure then securePort else plainPort)

def withIdentity (options : Options) (groupName accessToken : String) : Options :=
  { options with groupName := some groupName, accessToken := some accessToken }

def withService (options : Options) (host : String) (port : Nat) : Options :=
  { options with serviceHost := host, servicePort := some port }

/-- The group name and the access token, if both are given. -/
def identity? (options : Options) : Option (String × String) :=
  match options.groupName, options.accessToken with
  | some group, some token => some (group, token)
  | _, _ => none

def validate (options : Options) : Except ConfigError Unit :=
  if options.serviceHost = "" then
    .error (.invalidOption "service_host must not be empty")
  else if options.connect.maxBytesPerWrite = 0 then
    .error (.invalidOption "max_bytes_per_write must be positive")
  else if options.connect.connectTimeout.isZero then
    .error (.invalidOption "connect_timeout must be positive")
  else .ok ()

end Options

end Telemetry
