import Telemetry.Text.Ascii
import Telemetry.Text.Parts
import Telemetry.Text.Utf8

/-!
The head of an answer: a status line and header lines up to an empty line. A line
ends with a line feed, before which a carriage return may stand, and holds no
other controls than tabs. A head that is cut short is none.
-/

namespace Telemetry.Http

inductive Version
  | http10
  | http11
  deriving DecidableEq, Repr

def Version.name : Version → String
  | .http10 => "HTTP/1.0"
  | .http11 => "HTTP/1.1"

def Version.ofName? (name : List UInt8) : Option Version :=
  [Version.http10, .http11].find? fun version => Utf8.encode version.name = name

/-- The octets up to the end of a line, and those after it. -/
def takeLine? : List UInt8 → Option (List UInt8 × List UInt8)
  | [] => none
  | 10 :: rest => some ([], rest)
  | 13 :: 10 :: rest => some ([], rest)
  | octet :: rest =>
    if octet = 9 || 32 ≤ octet && octet ≠ 127 then do
      let (line, after) ← takeLine? rest
      return (octet :: line, after)
    else none

/-- A header with its name in lower case and its value without blanks around it. -/
structure Header where
  name : List UInt8
  value : List UInt8
  deriving DecidableEq, Repr

namespace Header

def isNameOctet (octet : UInt8) : Bool :=
  Ascii.isDecimal octet || Ascii.isLetter octet ||
    (Utf8.encode "!#$%&'*+-.^_`|~").contains octet

def ofLine? (line : List UInt8) : Option Header := do
  let (name, some value) := Parts.divide (· = 58) line | none
  if !name.isEmpty && name.all isNameOctet then
    some ⟨name.map Ascii.lower, Parts.trim Ascii.isBlank value⟩
  else none

/-- The items of a value that is a list, in lower case. A value with octets that
are not ASCII is no list. -/
def items? (value : List UInt8) : Option (List (List UInt8)) :=
  if value.all (· < 128) then
    some ((Parts.split (· = 44) value).map fun item =>
      (Parts.trim Ascii.isBlank item).map Ascii.lower)
  else none

end Header

/-- Header lines up to the empty one, at most `room` of them, and the octets after
it. -/
def takeHeaders? : (room : Nat) → List UInt8 → Option (List Header × List UInt8)
  | 0, octets => do
    let (line, rest) ← takeLine? octets
    if line.isEmpty then some ([], rest) else none
  | room + 1, octets => do
    let (line, rest) ← takeLine? octets
    if line.isEmpty then some ([], rest)
    else do
      let header ← Header.ofLine? line
      let (headers, rest) ← takeHeaders? room rest
      return (header :: headers, rest)

structure Head where
  version : Version
  status : Nat
  headers : List Header
  deriving DecidableEq, Repr

namespace Head

/-- An answer with more headers is not read. -/
def maxHeaders : Nat := 100

/-- The most octets of a head, with the empty lines before it. -/
def maxLength : Nat := 417792

/-- The version and the status of a line such as `HTTP/1.1 200 OK`. A reason may be
missing. -/
def statusLine? (line : List UInt8) : Option (Version × Nat) := do
  let version ← Version.ofName? (line.take 8)
  let code := (line.drop 9).take 3
  let status ← Ascii.decimal? code
  if (line.drop 8).head? = some 32 ∧ code.length = 3 ∧ 100 ≤ status ∧
      (line.drop 12).head?.getD 32 = 32 then
    some (version, status)
  else none

/-- Empty lines before a head do not count. -/
def skipEmptyLines : List UInt8 → List UInt8
  | 10 :: rest => skipEmptyLines rest
  | 13 :: 10 :: rest => skipEmptyLines rest
  | octets => octets

def take? (octets : List UInt8) : Option (Head × List UInt8) := do
  let (line, rest) ← takeLine? (skipEmptyLines octets)
  let (version, status) ← statusLine? line
  let (headers, rest) ← takeHeaders? maxHeaders rest
  if octets.length ≤ rest.length + maxLength then some (⟨version, status, headers⟩, rest)
  else none

/-- A head that only says that the answer is still to come. -/
def isInterim (head : Head) : Bool :=
  head.status < 200 && head.status ≠ 101

/-- The head of the answer itself, after any interim ones. `steps` bounds their
number. -/
def takeFinal? : (steps : Nat) → List UInt8 → Option (Head × List UInt8)
  | 0, _ => none
  | steps + 1, octets => do
    let (head, rest) ← take? octets
    if head.isInterim then takeFinal? steps rest else some (head, rest)

/-- The values of all headers of one name, which is given in lower case. -/
def values (head : Head) (name : String) : List (List UInt8) :=
  (head.headers.filter (·.name = Utf8.encode name)).map (·.value)

/-- Whether the other side keeps the connection after this answer. The older
version has to say so, the newer one need not, and neither may say otherwise. -/
def keepsAlive (head : Head) : Bool :=
  let items := (head.values "connection").flatMap fun value =>
    (Header.items? value).getD []
  !items.contains (Utf8.encode "close") &&
    (head.version = .http11 || items.contains (Utf8.encode "keep-alive"))

end Head

end Telemetry.Http
