import Telemetry.Tls.Extension

/-!
Messages of a handshake. A message is read as a whole, and faults are found in the
order of its octets. Some have another form in the newest version, which the version
of their record tells; a hello that only asks for another one is not told apart, for
it cannot be spelled as text.
-/

namespace Telemetry.Tls

open Reader

/-- The version before the newest. -/
def tls12 : Nat := 0x0303

/-- The newest version. -/
def tls13 : Nat := 0x0304

structure ServerHello where
  version : Nat
  random : List UInt8
  suite : Nat
  compression : Nat
  extensions : List Extension
  deriving DecidableEq, Repr

/-- The messages that a client may wait for, and all others by their codes. -/
inductive Message
  | serverHello (hello : ServerHello)
  | encryptedExtensions (extensions : List Extension)
  | certificate (chain : List (List UInt8))
  | certificateStatus
  | serverKeyExchange (body : List UInt8)
  | certificateRequest
  | serverHelloDone
  | other (code : Nat)
  deriving DecidableEq, Repr

namespace Message

def code : Message → Nat
  | .serverHello _ => 2
  | .encryptedExtensions _ => 8
  | .certificate _ => 11
  | .serverKeyExchange _ => 12
  | .certificateRequest => 13
  | .serverHelloDone => 14
  | .certificateStatus => 22
  | .other code => code

def random : Reader (List UInt8) := fun octets =>
  if octets.length < 32 then .error (.missing "Random")
  else .ok (octets.take 32, octets.drop 32)

def sessionId : Reader Unit := do
  let length ← word 1
  if 32 < length then throw (.trailing "SessionID")
  skip fun octets =>
    if octets.length < length then .error (.missing "SessionID")
    else .ok ((), octets.drop length)

/-- Extensions that may be left out at the end of a message. -/
def optionalExtensions (kinds : Extensions) : Reader (List Extension) := fun octets =>
  if octets.isEmpty then .ok ([], []) else kinds.read octets

def readServerHello : Reader ServerHello := do
  let version ← number 2 "ProtocolVersion"
  let random ← random
  sessionId
  let suite ← number 2 "CipherSuite"
  let compression ← number 1 "Compression"
  let extensions ← optionalExtensions serverExtensions
  finish "ServerHelloPayload"
  return { version, random, suite, compression, extensions }

def readClientHello : Reader Unit := do
  skip (number 2 "ProtocolVersion")
  skip random
  sessionId
  skip (list 2 (some (.emptyList "CipherSuites")) (number 2 "CipherSuite"))
  skip (list 1 (some (.emptyList "Compressions")) (number 1 "Compression"))
  skip (optionalExtensions clientExtensions)
  finish "ClientHelloPayload"

/-- The most octets of a list of certificates. -/
def maxCertificates : Nat := 0x10000

def certificateList {α : Type} (read : Reader α) : Reader (List α) := do
  let length ← word 3
  if maxCertificates < length then throw .longCertificates
  let part ← taken length
  itemsOf read part.length part

/-- Certificates with extensions, after something that tells them apart. -/
def newestCertificates : Reader Unit := do
  skip (vector 1)
  skip (certificateList do
    skip (vector 3)
    certificateExtensions.read)

def readRequest : Reader Unit := do
  skip (list 1 (some (.emptyList "ClientCertificateTypes"))
    (number 1 "ClientCertificateType"))
  signatureSchemes
  distinguishedNames

def newestTicket : Reader Unit := do
  skip (word 4)
  skip (word 4)
  skip (vector 1)
  let length ← word 2
  if length = 0 then throw .emptyTicket
  skip (taken length)
  skip ticketExtensions.read

/-- The body of a message in a record of this version. -/
def readBody (version code : Nat) : Reader Message :=
  let isNewest := version = tls13
  let told (read : Reader Unit) : Reader Message := do
    read
    return .other code
  match code with
  | 1 => told readClientHello
  | 2 => return .serverHello (← readServerHello)
  | 4 =>
    told (if isNewest then newestTicket else do
      skip (word 4)
      skip (vector 2))
  | 5 => told (finish "EndOfEarlyData")
  | 6 => throw (.unexpected "HelloRetryRequest")
  | 8 => return .encryptedExtensions (← serverExtensions.read)
  | 11 =>
    if isNewest then told newestCertificates
    else return .certificate (← certificateList (vector 3))
  | 12 => return .serverKeyExchange (← rest)
  | 13 =>
    if isNewest then
      told do
        skip (vector 1)
        skip requestExtensions.read
    else do
      readRequest
      return .certificateRequest
  | 14 => do
    finish "ServerHelloDone"
    return .serverHelloDone
  | 15 =>
    told do
      signatureScheme
      skip (vector 2)
  | 22 => do
    status
    return .certificateStatus
  | 24 => told (skip (number 1 "KeyUpdateRequest"))
  | 25 =>
    told do
      skip (number 2 "CertificateCompressionAlgorithm")
      skip (word 3)
      skip (vector 3)
  | 254 => throw (.unexpected "MessageHash")
  | _ => told (skip rest)

def read (version code : Nat) : Reader Message := do
  let message ← readBody version code
  finish "HandshakeMessagePayload"
  return message

/-- A point on a curve that has a name, and its signature. -/
def isKeyExchange (body : List UInt8) : Bool :=
  let exchange : Reader Nat := do
    let curve ← number 1 "ECCurveType"
    groupName
    skip (filled 1)
    signatureScheme
    skip (vector 2)
    finish "ServerKeyExchange"
    return curve
  match exchange.value body with
  | .ok curve => curve = 3
  | .error _ => false

end Message

end Telemetry.Tls
