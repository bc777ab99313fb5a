import Telemetry.Tls.Message
import Telemetry.Tls.Record

/-!
The client's side of a handshake with a server that has said all it will say before
it is asked. Such a server knows neither what the client's hello holds nor the keys
that follow from it, so the handshake ends before any key is agreed on. The client
offers the two newest versions and trusts no certificate that can be spelled as text.
-/

namespace Telemetry.Tls

/-- What a server may not do, however well its messages are formed. -/
inductive Misconduct
  | illegalCipherChange
  | interleavedMessage
  | tooManyWarnings
  | oldVersionByNewExtension
  | unofferedCompression
  | unsolicitedHelloExtension
  | noUncompressedPoints
  | unofferedSuite
  | unusableSuite
  | downgrade
  | cleartextExtension
  | noKeyShare
  | wrongGroup
  | badKeyShare
  | pendingFragment
  | unsolicitedExtension
  | disallowedExtension
  deriving DecidableEq, Repr

def Misconduct.name : Misconduct → String
  | .illegalCipherChange => "IllegalMiddleboxChangeCipherSpec"
  | .interleavedMessage => "MessageInterleavedWithHandshakeMessage"
  | .tooManyWarnings => "TooManyWarningAlertsReceived"
  | .oldVersionByNewExtension => "SelectedTls12UsingTls13VersionExtension"
  | .unofferedCompression => "SelectedUnofferedCompression"
  | .unsolicitedHelloExtension => "UnsolicitedServerHelloExtension"
  | .noUncompressedPoints => "ServerHelloMustOfferUncompressedEcPoints"
  | .unofferedSuite => "SelectedUnofferedCipherSuite"
  | .unusableSuite => "SelectedUnusableCipherSuiteForVersion"
  | .downgrade => "AttemptedDowngradeToTls12WhenTls13IsSupported"
  | .cleartextExtension => "UnexpectedCleartextExtension"
  | .noKeyShare => "MissingKeyShare"
  | .wrongGroup => "WrongGroupForKeyShare"
  | .badKeyShare => "InvalidKeyShare"
  | .pendingFragment => "KeyEpochWithPendingFragment"
  | .unsolicitedExtension => "UnsolicitedEncryptedExtension"
  | .disallowedExtension => "DisallowedEncryptedExtension"

/-- Why a handshake ends. -/
inductive Failure
  | corrupt (fault : Fault)
  | alert (description : Nat)
  | unexpectedContent (got : Nat)
  | unexpectedMessage (got : Nat) (expected : List Nat)
  | misconduct (what : Misconduct)
  | noCommonVersion
  | undecryptable
  | noCertificates
  | badCertificate
  deriving DecidableEq, Repr

def Failure.message : Failure → String
  | .corrupt fault => "received corrupt message of type " ++ fault.name
  | .alert description => "received fatal alert: " ++ alerts.name description
  | .unexpectedContent got =>
    "received unexpected message: got " ++ contents.name got ++ " when expecting " ++
      contents.name Content.handshake
  | .unexpectedMessage got expected =>
    "received unexpected handshake message: got " ++ handshakes.name got ++
      " when expecting " ++ " or ".intercalate (expected.map handshakes.name)
  | .misconduct what => "peer misbehaved: " ++ what.name
  | .noCommonVersion => "peer is incompatible: ServerDoesNotSupportTls12Or13"
  | .undecryptable => "cannot decrypt peer's message"
  | .noCertificates => "peer sent no certificates"
  | .badCertificate => "invalid peer certificate: BadEncoding"

/-! ## Stages -/

/-- What the client waits for. Stages of the version before the newest go on in plain
text, and those of the newest do not. -/
inductive Stage
  | hello
  | extensions
  | newestCertificate
  | certificate (mayHaveStatus : Bool)
  | statusOrKeyExchange (hasChain : Bool)
  | keyExchange (hasChain : Bool)
  | requestOrDone (hasChain : Bool)
  | done (hasChain : Bool)
  deriving DecidableEq, Repr

namespace Stage

/-- The codes of the messages that are named where another one comes. -/
def expected : Stage → List Nat
  | .hello => [2, 6]
  | .extensions => [8]
  | .newestCertificate => [11, 13]
  | .certificate _ => [11]
  | .statusOrKeyExchange _ => [12, 22]
  | .keyExchange _ => [12]
  | .requestOrDone _ => [14]
  | .done _ => [14]

/-- Whether the newest version is agreed on. -/
def isNewest : Stage → Bool
  | .extensions => true
  | .newestCertificate => true
  | _ => false

end Stage

/-- The extensions that the client's hello has. -/
def offered : List Nat :=
  [Extension.statusRequest, Extension.groups, Extension.pointFormats,
    Extension.signatureAlgorithms, Extension.masterSecret, Extension.sessionTicket,
    Extension.supportedVersions, Extension.keyExchangeModes, Extension.keyShare]

def suites13 : List Nat :=
  [0x1301, 0x1302, 0x1303]

def suites12 : List Nat :=
  [0xC02B, 0xC02C, 0xC02F, 0xC030, 0xCCA8, 0xCCA9]

/-- The group of the client's key, and the length of a key. -/
def offeredGroup : Nat := 29

def keyLength : Nat := 32

/-- A key that a secret can be agreed with. Of the others of this length, a text
spells only zero and one. -/
def isUsableKey (key : List UInt8) : Bool :=
  key.length = keyLength && !(key.head?.any (· ≤ 1) && (key.drop 1).all (· = 0))

/-- How the random octets of a server end that could have chosen the newest version
and did not. -/
def downgradeMark : List UInt8 :=
  [68, 79, 87, 78, 71, 82, 68, 1]

namespace ServerHello

def body? (hello : ServerHello) (code : Nat) : Option (List UInt8) :=
  (hello.extensions.find? (·.code = code)).map (·.body)

/-- The version that is chosen, by an extension if there is one. -/
def chosen (hello : ServerHello) : Nat :=
  if hello.version = tls12 then
    ((hello.body? Extension.supportedVersions).map Reader.bigEndian).getD tls12
  else hello.version

def stage13 (hello : ServerHello) (isAligned : Bool) : Except Failure Stage := do
  let plain := [Extension.keyShare, Extension.sharedKey, Extension.supportedVersions]
  if !hello.extensions.all (plain.contains ·.code) then
    throw (.misconduct .cleartextExtension)
  match hello.body? Extension.keyShare with
  | none => throw (.misconduct .noKeyShare)
  | some share =>
    if Reader.bigEndian (share.take 2) ≠ offeredGroup then throw (.misconduct .wrongGroup)
    if !isUsableKey (share.drop 4) then throw (.misconduct .badKeyShare)
  if !isAligned then throw (.misconduct .pendingFragment)
  return .extensions

def stage12 (hello : ServerHello) : Except Failure Stage := do
  if hello.random.drop 24 = downgradeMark then throw (.misconduct .downgrade)
  return .certificate (hello.body? Extension.statusRequest).isSome

/-- What the client waits for after this hello. -/
def stage (hello : ServerHello) (isAligned : Bool) : Except Failure Stage := do
  let version := hello.chosen
  if version ≠ tls12 && version ≠ tls13 then throw .noCommonVersion
  if version = tls12 && (hello.body? Extension.supportedVersions).isSome then
    throw (.misconduct .oldVersionByNewExtension)
  if hello.compression ≠ 0 then throw (.misconduct .unofferedCompression)
  if !hello.extensions.all fun e => (Extension.renegotiation :: offered).contains e.code then
    throw (.misconduct .unsolicitedHelloExtension)
  if ((hello.body? Extension.pointFormats).getD [0, 0]).drop 1 |>.all (· ≠ 0) then
    throw (.misconduct .noUncompressedPoints)
  if suites13.contains hello.suite then
    if version = tls13 then hello.stage13 isAligned else throw (.misconduct .unusableSuite)
  else if suites12.contains hello.suite then
    if version = tls12 then hello.stage12 else throw (.misconduct .unusableSuite)
  else throw (.misconduct .unofferedSuite)

end ServerHello

namespace Stage

/-- Extensions that belong into the hello, or to the version before the newest. -/
def misplaced : List Nat :=
  [Extension.keyShare, Extension.sharedKey, Extension.supportedVersions,
    Extension.pointFormats, Extension.sessionTicket, Extension.renegotiation,
    Extension.masterSecret]

def afterExtensions (extensions : List Extension) : Except Failure Stage :=
  if !extensions.all (offered.contains ·.code) then
    .error (.misconduct .unsolicitedExtension)
  else if extensions.any (misplaced.contains ·.code) then
    .error (.misconduct .disallowedExtension)
  else .ok .newestCertificate

def afterKeyExchange (hasChain : Bool) (body : List UInt8) : Except Failure Stage :=
  if Message.isKeyExchange body then .ok (.requestOrDone hasChain)
  else .error (.corrupt .keyExchange)

/-- Only now are the certificates looked at. -/
def judge (isAligned hasChain : Bool) : Failure :=
  if !isAligned then .misconduct .pendingFragment
  else if hasChain then .badCertificate
  else .noCertificates

/-- Takes a message. It is aligned if its record ends with the end of a message. -/
def next (stage : Stage) (isAligned : Bool) (message : Message) : Except Failure Stage :=
  match stage, message with
  | .hello, .serverHello answer => answer.stage isAligned
  | .extensions, .encryptedExtensions given => afterExtensions given
  | .certificate mayHaveStatus, .certificate chain =>
    .ok (if mayHaveStatus then .statusOrKeyExchange !chain.isEmpty
      else .keyExchange !chain.isEmpty)
  | .statusOrKeyExchange hasChain, .certificateStatus => .ok (.keyExchange hasChain)
  | .statusOrKeyExchange hasChain, .serverKeyExchange body => afterKeyExchange hasChain body
  | .keyExchange hasChain, .serverKeyExchange body => afterKeyExchange hasChain body
  | .requestOrDone hasChain, .certificateRequest => .ok (.done hasChain)
  | .requestOrDone hasChain, .serverHelloDone => .error (judge isAligned hasChain)
  | .done hasChain, .serverHelloDone => .error (judge isAligned hasChain)
  | stage, message => .error (.unexpectedMessage message.code stage.expected)

end Stage

/-! ## The client -/

structure Client where
  stage : Stage := .hello
  /-- The beginning of a message, and the version of its first record. -/
  pending : List UInt8 := []
  version : Nat := tls12
  /-- How many more warnings and changes of ciphers are put up with. -/
  warnings : Nat := 4
  cipherChanges : Nat := 2

namespace Client

/-- Adds to the handshake what a record holds of it. All messages of a record are
found before the first one is read. -/
def join (client : Client) (record : Record) : Except Failure Client := do
  let version := if client.pending.isEmpty then record.version else client.version
  let octets := client.pending ++ record.payload
  let (envelopes, pending) ← (Envelope.takeAll octets.length octets).mapError .corrupt
  let stage ← envelopes.foldlM (fun stage envelope => do
    let message ←
      ((Message.read version envelope.code).value envelope.body).mapError .corrupt
    stage.next pending.isEmpty message) client.stage
  return { client with stage, pending, version }

/-- The newest version passes over a few changes of ciphers, and waits for none. -/
def changeCipher (client : Client) (payload : List UInt8) : Except Failure Client :=
  if client.stage.isNewest then
    match client.cipherChanges with
    | 0 => .error (.misconduct .illegalCipherChange)
    | left + 1 =>
      if payload = [1] then .ok { client with cipherChanges := left }
      else .error (.misconduct .illegalCipherChange)
  else
    match payload with
    | [1] => .error (.unexpectedContent Content.changeCipher)
    | 1 :: _ => .error (.corrupt (.trailing "ChangeCipherSpecPayload"))
    | _ => .error (.corrupt .cipherChange)

/-- A warning can be passed over, but for the newest version only one that tells of
a user. -/
def takeAlert (client : Client) (payload : List UInt8) : Except Failure Client :=
  match payload with
  | [level, description] =>
    if level ≠ 1 then .error (.alert description.toNat)
    else
      match client.warnings with
      | 0 => .error (.misconduct .tooManyWarnings)
      | left + 1 =>
        if client.stage.isNewest && description ≠ 90 then
          .error (.alert description.toNat)
        else .ok { client with warnings := left }
  | [] => .error (.corrupt (.missing "AlertLevel"))
  | [_] => .error (.corrupt (.missing "AlertDescription"))
  | _ => .error (.corrupt (.trailing "AlertMessagePayload"))

def receive (client : Client) (record : Record) : Except Failure Client :=
  if client.stage.isNewest && !record.isPlain then .error .undecryptable
  else if record.kind = Content.handshake then client.join record
  else if !client.pending.isEmpty then .error (.misconduct .interleavedMessage)
  else if record.kind = Content.changeCipher then client.changeCipher record.payload
  else if record.kind = Content.alert then client.takeAlert record.payload
  else if record.kind = Content.applicationData then
    .error (.unexpectedContent record.kind)
  else .error (.corrupt .contentType)

/-- How the handshake ends, unless the client is left waiting. `steps` bounds the
number of records. -/
def failure? : (steps : Nat) → Client → List UInt8 → Option Failure
  | 0, _, _ => none
  | steps + 1, client, octets =>
    match Record.take? octets with
    | .error fault => some (.corrupt fault)
    | .ok none => none
    | .ok (some (record, rest)) =>
      match client.receive record with
      | .error failure => some failure
      | .ok client => failure? steps client rest

end Client

/-- How a handshake ends with a server that greets with these octets. -/
def failure? (greeting : List UInt8) : Option Failure :=
  Client.failure? greeting.length {} greeting

end Telemetry.Tls
