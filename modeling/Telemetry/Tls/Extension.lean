import Telemetry.Tls.Reader

/-!
Extensions of messages: each has a code and a body, and each kind of message has its
own bodies for the codes that it knows. No code may come twice.
-/

namespace Telemetry.Tls

open Reader

structure Extension where
  code : Nat
  body : List UInt8
  deriving DecidableEq, Repr

namespace Extension

def statusRequest : Nat := 5

def groups : Nat := 10

def pointFormats : Nat := 11

def signatureAlgorithms : Nat := 13

def masterSecret : Nat := 23

def sessionTicket : Nat := 35

def sharedKey : Nat := 41

def supportedVersions : Nat := 43

def keyExchangeModes : Nat := 45

def keyShare : Nat := 51

def renegotiation : Nat := 0xFF01

end Extension

/-- How one kind of message reads its extensions. -/
structure Extensions where
  /-- What the block is called where a body has octets left. -/
  title : String
  known : List (Nat × Reader Unit)
  /-- Why a code that is not known is refused, if it is. -/
  whenUnknown : Option Fault := none
  /-- A code that none may follow. -/
  last : Option Nat := none

namespace Extensions

def readOne (kinds : Extensions) (seen : List Nat) : Reader Extension := do
  let code ← number 2 "ExtensionType"
  let body ← vector 2
  match kinds.known.lookup code with
  | some read =>
    if seen.contains code then throw (.twice code)
    (do read; finish kinds.title : Reader Unit).value body
  | none =>
    if let some fault := kinds.whenUnknown then throw fault
    if seen.contains code then throw (.twice code)
  return ⟨code, body⟩

def readOn (kinds : Extensions) :
    (steps : Nat) → (seen : List Nat) → List UInt8 → Except Fault (List Extension)
  | _, _, [] => .ok []
  | 0, _, _ => .ok []
  | steps + 1, seen, octets => do
    let (extension, octets) ← kinds.readOne seen octets
    if kinds.last = some extension.code && !octets.isEmpty then throw .notLast
    let extensions ← kinds.readOn steps (extension.code :: seen) octets
    return extension :: extensions

def read (kinds : Extensions) : Reader (List Extension) := do
  let part ← vector 2
  kinds.readOn part.length [] part

end Extensions

/-! ## The kinds of blocks -/

/-- An extension that only answers that another one was understood. -/
def acknowledgement : Reader Unit :=
  finish "Empty"

def groupName : Reader Unit :=
  skip (number 2 "NamedGroup")

def keyShareEntry : Reader Unit := do
  groupName
  skip (filled 2)

def signatureScheme : Reader Unit :=
  skip (number 2 "SignatureScheme")

def signatureSchemes : Reader Unit :=
  skip (list 2 (some .noSignatureSchemes) signatureScheme)

def distinguishedNames : Reader Unit :=
  skip (list 2 none (filled 2))

def protocolName : Reader Unit :=
  skip (filled 1)

def protocolNames : Fault :=
  .emptyList "ProtocolNames"

/-- A list that holds one name. -/
def oneProtocol : Reader Unit := do
  let length ← word 2
  if length = 0 then throw protocolNames
  let part ← taken length
  (do protocolName; finish "SingleProtocolName" : Reader Unit).value part

def formatNames : Reader Unit :=
  skip (list 1 (some (.emptyList "ECPointFormats")) (number 1 "ECPointFormat"))

def certificateType : Reader Unit :=
  skip (number 1 "CertificateType")

def certificateTypes : Reader Unit :=
  skip (list 1 (some (.emptyList "CertificateTypes")) certificateType)

def compressions : Reader Unit :=
  skip (list 1 (some (.emptyList "CertificateCompressionAlgorithms"))
    (number 2 "CertificateCompressionAlgorithm"))

/-- The status of a certificate, of which there is one type. -/
def status : Reader Unit := do
  let type ← number 1 "CertificateStatusType"
  if type ≠ 1 then throw .statusType
  skip (vector 3)

/-- Names of servers, of which one may be the name of a host. Names of other types
have no known end. -/
def serverNames : (steps : Nat) → (found : Bool) → Reader Unit
  | 0, _ => pure ()
  | steps + 1, found => fun octets =>
    if octets.isEmpty then .ok ((), [])
    else (do
      let type ← number 1 "ServerNameType"
      if type = 0 then
        skip (filled 2)
        if found then throw .serverName
        serverNames steps true
      else skip rest : Reader Unit) octets

/-- What a server says in its hello and after it. -/
def serverExtensions : Extensions where
  title := "ServerExtensions"
  known := [
    (0, acknowledgement),
    (Extension.statusRequest, acknowledgement),
    (Extension.pointFormats, formatNames),
    (16, oneProtocol),
    (19, certificateType),
    (20, certificateType),
    (Extension.masterSecret, acknowledgement),
    (Extension.sessionTicket, acknowledgement),
    (Extension.sharedKey, skip (word 2)),
    (42, acknowledgement),
    (Extension.supportedVersions, skip (number 2 "ProtocolVersion")),
    (Extension.keyShare, keyShareEntry),
    (57, skip rest),
    (Extension.renegotiation, skip (vector 1))]

/-- What a client says in its hello. -/
def clientExtensions : Extensions where
  title := "ClientExtensions"
  known := [
    (0, do
      let length ← word 2
      if length = 0 then throw (.emptyList "ServerNames")
      let part ← taken length
      (serverNames part.length false).value part),
    (Extension.statusRequest, do
      let type ← number 1 "CertificateStatusType"
      if type = 1 then
        skip (list 2 none (vector 2))
        skip (vector 2)
      else skip rest),
    (Extension.groups, skip (list 2 (some (.emptyList "NamedGroups")) groupName)),
    (Extension.pointFormats, formatNames),
    (Extension.signatureAlgorithms, signatureSchemes),
    (16, skip (list 2 (some protocolNames) protocolName)),
    (19, certificateTypes),
    (20, certificateTypes),
    (Extension.masterSecret, acknowledgement),
    (27, compressions),
    (Extension.sessionTicket, skip rest),
    (Extension.sharedKey, do
      skip (list 2 (some (.emptyList "PskIdentities")) (do
        skip (filled 2)
        skip (word 4) : Reader Unit))
      skip (list 2 (some (.emptyList "PskBinders")) (filled 1))),
    (42, acknowledgement),
    (Extension.supportedVersions,
      skip (list 1 (some (.emptyList "ProtocolVersions")) (number 2 "ProtocolVersion"))),
    (44, skip (filled 2)),
    (Extension.keyExchangeModes,
      skip (list 1 (some (.emptyList "PskKeyExchangeModes"))
        (number 1 "PskKeyExchangeMode"))),
    (47, distinguishedNames),
    (Extension.keyShare, skip (list 2 none keyShareEntry)),
    (57, skip rest),
    (Extension.renegotiation, skip (vector 1))]
  last := some Extension.sharedKey

/-- What comes with a certificate. -/
def certificateExtensions : Extensions where
  title := "CertificateExtensions"
  known := [(Extension.statusRequest, status)]
  whenUnknown := some .certificateExtension

/-- What comes with a request for a certificate. -/
def requestExtensions : Extensions where
  title := "CertificateRequestExtensions"
  known := [
    (Extension.signatureAlgorithms, signatureSchemes),
    (27, compressions),
    (47, distinguishedNames)]

/-- What comes with a ticket. -/
def ticketExtensions : Extensions where
  title := "NewSessionTicketExtensions"
  known := [(42, skip (word 4))]

end Telemetry.Tls
