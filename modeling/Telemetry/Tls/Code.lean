/-!
The codes of TLS and their names. A code without a name is shown as a number under
the title of its kind.
-/

namespace Telemetry.Tls

/-- What one kind of code is called, as a whole and code by code. -/
structure Registry where
  title : String
  names : List (Nat × String)

def Registry.name (registry : Registry) (code : Nat) : String :=
  (registry.names.lookup code).getD
    (registry.title ++ "(0x" ++ String.ofList (Nat.toDigits 16 code) ++ ")")

/-- The kinds of records. -/
def contents : Registry where
  title := "ContentType"
  names := [(20, "ChangeCipherSpec"), (21, "Alert"), (22, "Handshake"),
    (23, "ApplicationData"), (24, "Heartbeat")]

namespace Content

def changeCipher : Nat := 20

def alert : Nat := 21

def handshake : Nat := 22

def applicationData : Nat := 23

end Content

/-- The messages of a handshake. -/
def handshakes : Registry where
  title := "HandshakeType"
  names := [(0, "HelloRequest"), (1, "ClientHello"), (2, "ServerHello"),
    (4, "NewSessionTicket"), (5, "EndOfEarlyData"), (6, "HelloRetryRequest"),
    (8, "EncryptedExtensions"), (11, "Certificate"), (12, "ServerKeyExchange"),
    (13, "CertificateRequest"), (14, "ServerHelloDone"), (15, "CertificateVerify"),
    (16, "ClientKeyExchange"), (20, "Finished"), (21, "CertificateURL"),
    (22, "CertificateStatus"), (24, "KeyUpdate"), (25, "CompressedCertificate"),
    (254, "MessageHash")]

def alerts : Registry where
  title := "AlertDescription"
  names := [(0, "CloseNotify"), (10, "UnexpectedMessage"), (20, "BadRecordMac"),
    (21, "DecryptionFailed"), (22, "RecordOverflow"), (30, "DecompressionFailure"),
    (40, "HandshakeFailure"), (41, "NoCertificate"), (42, "BadCertificate"),
    (43, "UnsupportedCertificate"), (44, "CertificateRevoked"), (45, "CertificateExpired"),
    (46, "CertificateUnknown"), (47, "IllegalParameter"), (48, "UnknownCA"),
    (49, "AccessDenied"), (50, "DecodeError"), (51, "DecryptError"),
    (60, "ExportRestriction"), (70, "ProtocolVersion"), (71, "InsufficientSecurity"),
    (80, "InternalError"), (86, "InappropriateFallback"), (90, "UserCanceled"),
    (100, "NoRenegotiation"), (109, "MissingExtension"), (110, "UnsupportedExtension"),
    (111, "CertificateUnobtainable"), (112, "UnrecognisedName"),
    (113, "BadCertificateStatusResponse"), (114, "BadCertificateHashValue"),
    (115, "UnknownPSKIdentity"), (116, "CertificateRequired"),
    (120, "NoApplicationProtocol"), (121, "EncryptedClientHelloRequired")]

end Telemetry.Tls
