import Telemetry.Http.Head
import Telemetry.Text.Hex

/-!
Where the body of an answer ends. The head decides it: there is no body, or it has
a length, or it comes in chunks that each give their length, or it goes on until
the connection ends. The chunks end with one of length zero, after which further
headers may follow.
-/

namespace Telemetry.Http

inductive Framing
  | absent
  | sized (length : Nat)
  | chunked
  | untilClose
  deriving DecidableEq, Repr

/-- These answers have no body, whatever their headers say. -/
def hasNoBody (status : Nat) : Bool :=
  status = 101 || status = 204 || status = 304

/-- The greatest length that a header may give. -/
def maxLength : Nat := 0xfffffffffffffffd

/-- The length that all the values agree on. -/
def agreedLength? (values : List (List UInt8)) : Option Nat := do
  let lists ← values.mapM Header.items?
  let lengths ← lists.flatten.mapM Ascii.decimal?
  let length ← lengths.head?
  if lengths.all (· = length) ∧ length ≤ maxLength then some length else none

/-- Chunks are read only if they are the outermost encoding; any other encoding
has no end of its own. -/
def isChunked (values : List (List UInt8)) : Bool :=
  ((values.getLast?.bind Header.items?).bind (·.getLast?)) = some (Utf8.encode "chunked")

/-- How the body is framed; a length beside an encoding is not looked at. -/
def Head.framing? (head : Head) : Option Framing :=
  if hasNoBody head.status then some .absent
  else
    match head.values "transfer-encoding", head.values "content-length" with
    | [], [] => some .untilClose
    | [], lengths => (agreedLength? lengths).map .sized
    | encodings, _ =>
      if head.version = .http10 then none
      else if isChunked encodings then some .chunked
      else some .untilClose

namespace Chunk

def isHex (octet : UInt8) : Bool :=
  (Hex.value? octet.toNat).isSome

/-- A length in hexadecimal, of at most 64 bits. -/
def size? (digits : List UInt8) : Option Nat :=
  let size := digits.foldl (fun n digit => n * 16 + (Hex.value? digit.toNat).getD 0) 0
  if digits.isEmpty ∨ 0x10000000000000000 ≤ size then none else some size

/-- The number of octets left on a line that ends with both line end characters,
and the octets after it. -/
def endLine? (octets : List UInt8) : Option (Nat × List UInt8) :=
  let isInner (octet : UInt8) : Bool := octet ≠ 13 && octet ≠ 10
  match octets.dropWhile isInner with
  | 13 :: 10 :: rest => some ((octets.takeWhile isInner).length, rest)
  | _ => none

/-- The line before a chunk: the chunk's length, and how much is said after a
semicolon, which does not count. -/
structure Size where
  length : Nat
  extension : Nat
  deriving DecidableEq, Repr

/-- The next line before a chunk and the octets after it. -/
def takeSize? (octets : List UInt8) : Option (Size × List UInt8) := do
  let length ← size? (octets.takeWhile isHex)
  match (octets.dropWhile isHex).dropWhile Ascii.isBlank with
  | 13 :: 10 :: rest => some (⟨length, 0⟩, rest)
  | 59 :: rest => do
    let (extension, rest) ← endLine? rest
    return (⟨length, extension⟩, rest)
  | _ => none

/-- The most octets that all extensions of a body may have, and all headers after
its last chunk with the empty line that ends them. -/
def maxExtra : Nat := 16383

/-- Passes over the lines after the last chunk, up to an empty one, and counts
them. `steps` bounds their number. -/
def takeTrailer? : (steps : Nat) → List UInt8 → Option (Nat × List UInt8)
  | 0, _ => none
  | steps + 1, octets =>
    match octets with
    | 13 :: 10 :: rest => some (0, rest)
    | 13 :: _ => none
    | _ =>
      match octets.dropWhile (· ≠ 13) with
      | 13 :: 10 :: rest => do
        let (count, rest) ← takeTrailer? steps rest
        return (count + 1, rest)
      | _ => none

/-- The octets after the headers that end a chunked body, which have to be well
formed and as many as there are lines. -/
def endTrailer? (octets : List UInt8) : Option (List UInt8) := do
  let (count, rest) ← takeTrailer? (Head.maxHeaders + 1) octets
  let trailer := octets.take (octets.length - rest.length)
  if count = 0 then some rest
  else if maxExtra < trailer.length then none
  else do
    let _ ← takeHeaders? count trailer
    return rest

/-- The body that the chunks make up, and the octets after it. `steps` bounds their
number, and `room` the length of their extensions. -/
def takeAll? : (steps room : Nat) → List UInt8 → Option (List UInt8 × List UInt8)
  | 0, _, _ => none
  | steps + 1, room, octets => do
    let (size, rest) ← takeSize? octets
    if room < size.extension then none
    else if size.length = 0 then do
      let rest ← endTrailer? rest
      return ([], rest)
    else
      match rest.drop size.length with
      | 13 :: 10 :: after => do
        let (body, left) ← takeAll? steps (room - size.extension) after
        return (rest.take size.length ++ body, left)
      | _ => none

end Chunk

/-- The body and the octets after it, unless it is cut short. `ended` says that
nothing can follow on this connection. -/
def Framing.take? (framing : Framing) (ended : Bool) (octets : List UInt8) :
    Option (List UInt8 × List UInt8) :=
  match framing with
  | .absent => some ([], octets)
  | .sized length =>
    if octets.length < length then none
    else some (octets.take length, octets.drop length)
  | .chunked => Chunk.takeAll? octets.length Chunk.maxExtra octets
  | .untilClose => if ended then some (octets, []) else none

end Telemetry.Http
