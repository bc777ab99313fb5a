import Telemetry.Http.Path
import Telemetry.Text.Hex
import Telemetry.Text.Utf8

/-!
Targets of requests: the end of an address, which is a path and perhaps a query. A
text is read as one by itself or after another target, which it then changes from
where it begins. A question mark in it begins the query and a number sign ends it.
Octets that an address may not hold are written as a percent sign and two digits.
-/

namespace Telemetry.Http

structure Target where
  segments : List (List Char)
  query : Option (List Char)
  deriving DecidableEq, Repr

namespace Target

/-! ## Escapes -/

/-- The octets that are escaped wherever they stand. -/
def isUnsafe (octet : UInt8) : Bool :=
  octet ≤ 32 || 127 ≤ octet || octet = 34 || octet = 60 || octet = 62

/-- A path may not hold backquotes and braces either. -/
def isUnsafeInPath (octet : UInt8) : Bool :=
  isUnsafe octet || octet = 96 || octet = 123 || octet = 125

/-- A query may not hold apostrophes either. -/
def isUnsafeInQuery (octet : UInt8) : Bool :=
  isUnsafe octet || octet = 39

/-- What follows a number sign may not hold backquotes either. -/
def isUnsafeInFragment (octet : UInt8) : Bool :=
  isUnsafe octet || octet = 96

def escapeOctet (octet : UInt8) : List Char :=
  '%' :: (Hex.encodeOctet octet).map Char.toUpper

def escape (bad : UInt8 → Bool) (text : List Char) : List Char :=
  (Utf8.encodeChars text).flatMap fun octet =>
    if bad octet then escapeOctet octet else [Char.ofNat octet.toNat]

/-! ## Reading -/

/-- Drops what an address does not count: blanks and controls at its ends, tabs and
line ends anywhere. -/
def clean (text : List Char) : List Char :=
  let isOuter (c : Char) : Bool := c.toNat ≤ 32
  Parts.trim isOuter (text.filter fun c => c ≠ '\t' && c ≠ '\n' && c ≠ '\r')

def steps (path : List Char) : List (List Char) :=
  (Path.segments path).map (escape isUnsafeInPath)

/-- The target that a clean text names after this one. A text without a path keeps
the path, and one that is empty or only a fragment keeps the query as well. -/
def follow (target : Target) (text : List Char) : Target :=
  let (path, query) := Parts.divide (· = '?') (text.takeWhile (· ≠ '#'))
  let query := query.map (escape isUnsafeInQuery)
  match path with
  | [] => ⟨target.segments, query.orElse fun _ => target.query⟩
  | first :: rest =>
    if Path.isSlash first then ⟨Path.walk [] (steps rest), query⟩
    else ⟨Path.walk target.segments.dropLast (steps path), query⟩

/-- A path of one empty segment, which is written as a single slash. -/
def root : Target :=
  ⟨[[]], none⟩

def ofText (text : List Char) : Target :=
  root.follow (clean text)

/-! ## Writing -/

def text (target : Target) : List Char :=
  target.segments.flatMap ('/' :: ·) ++ target.query.elim [] ('?' :: ·)

/-- The longest text that a client asks for: with the scheme, the host and the
port before it, that makes an address of 65534 characters. -/
def maxLength : Nat :=
  65534 - "http://127.0.0.1:65535".length

end Target

end Telemetry.Http
