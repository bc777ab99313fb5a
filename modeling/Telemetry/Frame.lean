import Telemetry.Endpoint
import Telemetry.Text.Ascii
import Telemetry.Text.Parts
import Telemetry.Text.Utf8

/-!
Requests on a persistent connection: a head of text lines, one of which gives
the length of the body in decimal, a blank line and the body. Beside the writer
stands the reader of the other side, which takes one request after another from
what arrived.
-/

namespace Telemetry.Frame

def userAgent : String := "traceguide-rust/0.1.0"

def lineEnd : String := "\r\n"

/-- The name under which the head gives the length of the body. -/
def lengthName : String := "Content-Length"

def headLines (endpoint : Endpoint) (contentType : String) (length : Nat) : List String := [
  "POST " ++ endpoint.path ++ " HTTP/1.1",
  "Host: " ++ endpoint.hostHeader,
  "Accept: " ++ contentType,
  "User-Agent: " ++ userAgent,
  "Content-Type: " ++ contentType,
  lengthName ++ ": " ++ toString length]

def head (endpoint : Endpoint) (contentType : String) (length : Nat) : String :=
  String.join ((headLines endpoint contentType length).map (· ++ lineEnd)) ++ lineEnd

/-- The request that posts `body`. -/
def post (endpoint : Endpoint) (contentType : String) (body : List UInt8) : List UInt8 :=
  Utf8.encode (head endpoint contentType body.length) ++ body

/-! ## The other side -/

/-- The octets up to a line feed and those after it; none while it has not
arrived. -/
def takeLine? : List UInt8 → Option (List UInt8 × List UInt8)
  | [] => none
  | octet :: rest =>
    if octet = 10 then some ([], rest)
    else do
      let (line, after) ← takeLine? rest
      return (octet :: line, after)

/-- The white space of ASCII. A reader that takes a line for Unicode text trims more of
it: the spaces of other scripts, which have several octets, stay here. -/
def isSpace (octet : UInt8) : Bool :=
  octet = 32 || 9 ≤ octet && octet ≤ 13

def trimEnd (octets : List UInt8) : List UInt8 :=
  Parts.trimEnd isSpace octets

/-- Header lines up to the blank one, their ends trimmed, and the octets after
it. `steps` bounds the number of lines. -/
def takeHeaders? : (steps : Nat) → List UInt8 → Option (List (List UInt8) × List UInt8)
  | 0, _ => none
  | steps + 1, octets => do
    let (line, rest) ← takeLine? octets
    if (trimEnd line).isEmpty then some ([], rest)
    else do
      let (lines, rest) ← takeHeaders? steps rest
      return (trimEnd line :: lines, rest)

/-- The length that a header line gives, in whatever case its name is written. Only
digits give one here, however many they are. A reader that has to make a number of 64 bits
of the value takes a plus sign before them too, and stops at any other value. -/
def lengthIn? (line : List UInt8) : Option Nat := do
  let (name, some value) := Parts.divide (· = 58) line | none
  if name.map Ascii.lower = (Utf8.encode lengthName).map Ascii.lower then
    Ascii.decimal? (Parts.trim isSpace value)
  else none

/-- The length of the body: the last one given, and none given means no body. -/
def bodyLength (headers : List (List UInt8)) : Nat :=
  (headers.filterMap lengthIn?).getLastD 0

/-- A request as the other side reads it: its head as it arrived and taken apart,
and its body. -/
structure Request where
  head : List UInt8
  line : List UInt8
  headers : List (List UInt8)
  body : List UInt8
  deriving DecidableEq, Repr

/-- The first request of what arrived and the octets after it, once all of it is
there. -/
def takeRequest? (octets : List UInt8) : Option (Request × List UInt8) := do
  let (line, rest) ← takeLine? octets
  let (headers, rest) ← takeHeaders? (rest.length + 1) rest
  let length := bodyLength headers
  if rest.length < length then none
  else
    let head := octets.take (octets.length - rest.length)
    return (⟨head, trimEnd line, headers, rest.take length⟩, rest.drop length)

/-- The requests that arrived whole, and the octets of the one that has not. `steps`
bounds the number of requests. -/
def takeRequests : (steps : Nat) → List UInt8 → List Request × List UInt8
  | 0, octets => ([], octets)
  | steps + 1, octets =>
    match takeRequest? octets with
    | none => ([], octets)
    | some (request, rest) =>
      let (more, rest) := takeRequests steps rest
      (request :: more, rest)

/-- Everything that arrived, as requests. A request takes at least one octet. -/
def readRequests (octets : List UInt8) : List Request × List UInt8 :=
  takeRequests octets.length octets

end Telemetry.Frame
