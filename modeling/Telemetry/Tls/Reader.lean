import Telemetry.Text.Quoted

/-!
The parts that the messages of TLS are made of: numbers with the high octet first,
octets after their number, and lists of items after the number of their octets.
Reading gives a value and the octets after it, and ends with the first fault.
-/

namespace Telemetry.Tls

/-- What is wrong with a message. -/
inductive Fault
  | contentType
  | protocolVersion
  | emptyRecord
  | longRecord
  | longMessage
  | shortMessage
  | missing (what : String)
  | trailing (what : String)
  | cipherChange
  | longCertificates
  | twice (extension : Nat)
  | notLast
  | emptyList (what : String)
  | emptyValue
  | emptyTicket
  | noSignatureSchemes
  | unexpected (what : String)
  | statusType
  | serverName
  | certificateExtension
  | keyExchange
  deriving DecidableEq, Repr

def Fault.name : Fault → String
  | .contentType => "InvalidContentType"
  | .protocolVersion => "UnknownProtocolVersion"
  | .emptyRecord => "InvalidEmptyPayload"
  | .longRecord => "MessageTooLarge"
  | .longMessage => "HandshakePayloadTooLarge"
  | .shortMessage => "MessageTooShort"
  | .missing what => "MissingData(" ++ Quoted.text what ++ ")"
  | .trailing what => "TrailingData(" ++ Quoted.text what ++ ")"
  | .cipherChange => "InvalidCcs"
  | .longCertificates => "CertificatePayloadTooLarge"
  | .twice extension => "DuplicateExtension(" ++ toString extension ++ ")"
  | .notLast => "PreSharedKeyIsNotFinalExtension"
  | .emptyList what => "IllegalEmptyList(" ++ Quoted.text what ++ ")"
  | .emptyValue => "IllegalEmptyValue"
  | .emptyTicket => "EmptyTicketValue"
  | .noSignatureSchemes => "NoSignatureSchemes"
  | .unexpected what => "UnexpectedMessage(" ++ Quoted.text what ++ ")"
  | .statusType => "InvalidCertificateStatusType"
  | .serverName => "InvalidServerName"
  | .certificateExtension => "UnknownCertificateExtension"
  | .keyExchange => "MissingKeyExchange"

abbrev Reader (α : Type) := StateT (List UInt8) (Except Fault) α

namespace Reader

/-- The value of a part that is read by itself. -/
def value {α : Type} (read : Reader α) (part : List UInt8) : Except Fault α :=
  (read part).map (·.1)

def bigEndian (octets : List UInt8) : Nat :=
  octets.foldl (fun n octet => n * 256 + octet.toNat) 0

/-- A number of `width` octets that is called `what` where it is missing. -/
def number (width : Nat) (what : String) : Reader Nat := fun octets =>
  if octets.length < width then .error (.missing what)
  else .ok (bigEndian (octets.take width), octets.drop width)

def word (width : Nat) : Reader Nat :=
  number width ("u" ++ toString (8 * width))

def taken (length : Nat) : Reader (List UInt8) := fun octets =>
  if octets.length < length then .error .shortMessage
  else .ok (octets.take length, octets.drop length)

def rest : Reader (List UInt8) := fun octets =>
  .ok (octets, [])

/-- Nothing more may follow. -/
def finish (what : String) : Reader Unit := fun octets =>
  if octets.isEmpty then .ok ((), []) else .error (.trailing what)

/-- Octets after their number, which has `width` octets itself. -/
def vector (width : Nat) : Reader (List UInt8) := do
  taken (← word width)

/-- The same where there has to be an octet. -/
def filled (width : Nat) : Reader (List UInt8) := do
  let length ← word width
  if length = 0 then throw .emptyValue
  taken length

/-- Items up to the end of the octets, each of which has some. -/
def itemsOf {α : Type} (read : Reader α) : (steps : Nat) → List UInt8 → Except Fault (List α)
  | _, [] => .ok []
  | 0, _ => .ok []
  | steps + 1, octets => do
    let (item, octets) ← read octets
    let items ← itemsOf read steps octets
    return item :: items

/-- Items after the number of their octets. -/
def list {α : Type} (width : Nat) (whenEmpty : Option Fault) (read : Reader α) :
    Reader (List α) := do
  let length ← word width
  match whenEmpty with
  | some fault => if length = 0 then throw fault
  | none => pure ()
  let part ← taken length
  itemsOf read part.length part

/-- Something that is only read to see that it is there. -/
def skip {α : Type} (read : Reader α) : Reader Unit := do
  let _ ← read

end Reader

end Telemetry.Tls
