import Telemetry.Tls.Code
import Telemetry.Tls.Reader

/-!
Records, in which all that TLS sends is wrapped: a kind, a version, a length and as
many octets. The messages of a handshake are laid across records as they fit.
-/

namespace Telemetry.Tls

structure Record where
  kind : Nat
  version : Nat
  payload : List UInt8
  deriving DecidableEq, Repr

namespace Record

/-- A record has fewer octets than this. -/
def maxLength : Nat := 18432

/-- Versions of records, among them the oldest and those over datagrams. -/
def isVersion (version : Nat) : Bool :=
  version / 256 = 3 || [0x0200, 0xFEFC, 0xFEFD, 0xFEFF].contains version

/-- The first record and the octets after it, once all of it is there. Its parts are
looked at as they come. -/
def take? (octets : List UInt8) : Except Fault (Option (Record × List UInt8)) :=
  match octets with
  | kind :: rest =>
    if (contents.names.lookup kind.toNat).isNone then .error .contentType
    else
      match rest with
      | major :: minor :: rest =>
        let version := Reader.bigEndian [major, minor]
        if !isVersion version then .error .protocolVersion
        else
          match rest with
          | high :: low :: rest =>
            let length := Reader.bigEndian [high, low]
            if length = 0 && kind.toNat ≠ Content.applicationData then .error .emptyRecord
            else if maxLength ≤ length then .error .longRecord
            else if rest.length < length then .ok none
            else .ok (some (⟨kind.toNat, version, rest.take length⟩, rest.drop length))
          | _ => .ok none
      | _ => .ok none
  | [] => .ok none

/-- Short enough to be an alert that nothing hides, or a change of ciphers, which
nothing ever hides. -/
def isPlain (record : Record) : Bool :=
  record.kind = Content.changeCipher ||
    record.kind = Content.alert && record.payload.length ≤ 2

end Record

/-- A message of a handshake before it is read. -/
structure Envelope where
  code : Nat
  body : List UInt8
  deriving DecidableEq, Repr

namespace Envelope

/-- The greatest length of a message. -/
def maxLength : Nat := 0xFFFF

/-- All messages that are there as a whole, and the octets of one that is not. A
length that is too great is found as soon as it is there. -/
def takeAll : (steps : Nat) → List UInt8 → Except Fault (List Envelope × List UInt8)
  | steps + 1, code :: high :: middle :: low :: rest =>
    let length := Reader.bigEndian [high, middle, low]
    if maxLength < length then .error .longMessage
    else if rest.length < length then .ok ([], code :: high :: middle :: low :: rest)
    else do
      let (later, left) ← takeAll steps (rest.drop length)
      return (⟨code.toNat, rest.take length⟩ :: later, left)
  | _, octets => .ok ([], octets)

end Envelope

end Telemetry.Tls
