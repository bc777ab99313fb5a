import Telemetry.Sha256
import Telemetry.Text.Hex
import Telemetry.Text.Utf8

/-!
Who a process reports as. The guid is a digest of the process number and both
names, each under its length, so that no two different identities share what is
digested.
-/

namespace Telemetry

inductive ConfigError
  | emptyAccessToken
  | emptyGroupName
  | accessTokenChanged
  | groupNameChanged
  | alreadyInitialized
  | invalidOption (reason : String)
  | tls (reason : String)
  deriving DecidableEq, Repr

def ConfigError.message : ConfigError → String
  | .emptyAccessToken => "access_token must be a non-empty string"
  | .emptyGroupName => "group_name must be a non-empty string"
  | .accessTokenChanged => "access_token cannot be changed after it is set"
  | .groupNameChanged => "group_name cannot be changed after it is set"
  | .alreadyInitialized => "instrumentation library already initialized"
  | .invalidOption reason => s!"invalid option: {reason}"
  | .tls reason => s!"tls configuration failed: {reason}"

structure Identity where
  accessToken : String
  groupName : String
  guid : String
  startMicros : Int
  deriving DecidableEq, Repr

namespace Identity

/-- The little-endian octets of a number, `count` of them. -/
def littleEndian : (count : Nat) → Nat → List UInt8
  | 0, _ => []
  | count + 1, n => .ofNat n :: littleEndian count (n / 256)

def lengthAndText (s : String) : List UInt8 :=
  let octets := Utf8.encode s
  littleEndian 8 octets.length ++ octets

/-- What is digested. Fixed-width lengths in front keep the two names apart. -/
def guidPreimage (processId : UInt32) (accessToken groupName : String) : List UInt8 :=
  littleEndian 4 processId.toNat ++ lengthAndText accessToken ++ lengthAndText groupName

def deriveGuid (processId : UInt32) (accessToken groupName : String) : String :=
  Hex.encode ((Sha256.digest (guidPreimage processId accessToken groupName)).take 16)

/-- A guid of four random words, eight digits each. -/
def randomGuid (a b c d : UInt32) : String :=
  let word (w : UInt32) : List UInt8 := (littleEndian 4 w.toNat).reverse
  Hex.encode (word a ++ word b ++ word c ++ word d)

def validate (groupName accessToken : String) : Except ConfigError Unit :=
  if accessToken = "" then .error .emptyAccessToken
  else if groupName = "" then .error .emptyGroupName
  else .ok ()

def ofProcess (processId : UInt32) (groupName accessToken : String) (startMicros : Int) :
    Except ConfigError Identity := do
  validate groupName accessToken
  return {
    accessToken
    groupName
    guid := deriveGuid processId accessToken groupName
    startMicros }

def checkConsistent (identity : Identity) (groupName accessToken : String) :
    Except ConfigError Unit :=
  if identity.accessToken ≠ accessToken then .error .accessTokenChanged
  else if identity.groupName ≠ groupName then .error .groupNameChanged
  else .ok ()

end Identity

end Telemetry
