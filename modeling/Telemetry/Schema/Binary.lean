import Telemetry.Schema
import Telemetry.Text.Utf8

/-!
The binary format: little-endian words of fixed width, lengths of 64 bits before
texts and lists, one octet for a flag and for whether an optional value is there,
and the fields of a record one after another without their names. Reading uses
the octets of the value and leaves those after it.
-/

namespace Telemetry

namespace Binary

inductive Fault
  | endOfFile
  | textTooLong
  | badFlag (octet : Nat)
  | badTag (octet : Nat)
  | badVariant (index : Nat) (variants : Nat)
  | badText (fault : Utf8.Fault)
  deriving DecidableEq, Repr

def Fault.message : Fault → String
  | .endOfFile => "io error: unexpected end of file"
  | .textTooLong => "io error: "
  | .badFlag octet => s!"invalid u8 while decoding bool, expected 0 or 1, found {octet}"
  | .badTag octet => s!"tag for enum is not valid, found {octet}"
  | .badVariant index variants =>
    s!"invalid value: integer `{index}`, expected variant index 0 <= i < {variants}"
  | .badText fault => s!"string is not valid utf8: {fault.message}"

abbrev Reader (α : Type) := List UInt8 → Except Fault (α × List UInt8)

/-- The low octets of a number, `count` of them, the lowest first. -/
def writeWord : (count : Nat) → Nat → List UInt8
  | 0, _ => []
  | count + 1, n => .ofNat n :: writeWord count (n / 256)

def readWord : (count : Nat) → Reader Nat
  | 0, octets => .ok (0, octets)
  | _ + 1, [] => .error .endOfFile
  | count + 1, octet :: rest => do
    let (high, rest) ← readWord count rest
    return (octet.toNat + 256 * high, rest)

/-- A signed number in two's complement of 64 bits. -/
def writeInt (n : Int) : List UInt8 :=
  writeWord 8 (n % 0x10000000000000000).toNat

def readInt : Reader Int := fun octets => do
  let (n, rest) ← readWord 8 octets
  return (Int.bmod n 0x10000000000000000, rest)

def writeText (s : String) : List UInt8 :=
  let octets := Utf8.encode s
  writeWord 8 octets.length ++ octets

def readText : Reader String := fun octets => do
  let (length, rest) ← readWord 8 octets
  if rest.length < length then .error .textTooLong
  else
    match Utf8.decode (rest.take length) with
    | .ok s => .ok (s, rest.drop length)
    | .error fault => .error (.badText fault)

def writeFlag (b : Bool) : List UInt8 :=
  [if b then 1 else 0]

def readFlag : Reader Bool := fun octets => do
  let (octet, rest) ← readWord 1 octets
  if octet = 0 then .ok (false, rest)
  else if octet = 1 then .ok (true, rest)
  else .error (.badFlag octet)

def readLevel : Reader Level := fun octets => do
  let (index, rest) ← readWord 4 octets
  match Level.ofIndex? index with
  | some level => .ok (level, rest)
  | none => .error (.badVariant index Level.all.length)

def writeOptional {α : Type} (write : α → List UInt8) : Option α → List UInt8
  | none => [0]
  | some value => 1 :: write value

def readOptional {α : Type} (read : Reader α) : Reader (Option α) := fun octets => do
  let (tag, rest) ← readWord 1 octets
  if tag = 0 then .ok (none, rest)
  else if tag = 1 then do
    let (value, rest) ← read rest
    return (some value, rest)
  else .error (.badTag tag)

/-- `count` values one after another. -/
def readMany {α : Type} (read : Reader α) : Nat → Reader (List α)
  | 0, octets => .ok ([], octets)
  | count + 1, octets => do
    let (value, rest) ← read octets
    let (values, rest) ← readMany read count rest
    return (value :: values, rest)

def writeList {α : Type} (write : α → List UInt8) (values : List α) : List UInt8 :=
  writeWord 8 values.length ++ values.flatMap write

def readList {α : Type} (read : Reader α) : Reader (List α) := fun octets => do
  let (count, rest) ← readWord 8 octets
  readMany read count rest

end Binary

open Binary

mutual

def Schema.writeBinary : {α : Type} → Schema α → α → List UInt8
  | _, .text, s => writeText s
  | _, .flag, b => writeFlag b
  | _, .integer, n => writeInt n
  | _, .word, w => writeWord 4 w.toNat
  | _, .level, level => writeWord 4 level.index
  | _, .optional item, value => writeOptional item.writeBinary value
  | _, .list item, values => writeList item.writeBinary values
  | _, .record _ fields view _ _ _, value => fields.writeBinary (view value)

def Fields.writeBinary : {β δ : Type} → Fields β δ → β → List UInt8
  | _, _, .done, _ => []
  | _, _, .field _ shape _ rest, (value, values) =>
    shape.writeBinary value ++ rest.writeBinary values

end

mutual

def Schema.readBinary : {α : Type} → Schema α → Reader α
  | _, .text, octets => readText octets
  | _, .flag, octets => readFlag octets
  | _, .integer, octets => readInt octets
  | _, .word, octets => do
    let (n, rest) ← readWord 4 octets
    return (.ofNat n, rest)
  | _, .level, octets => readLevel octets
  | _, .optional item, octets => readOptional item.readBinary octets
  | _, .list item, octets => readList item.readBinary octets
  | _, .record _ fields _ make _ _, octets => do
    let (values, rest) ← fields.readBinary octets
    return (make values, rest)

def Fields.readBinary : {β δ : Type} → Fields β δ → Reader β
  | _, _, .done, octets => .ok ((), octets)
  | _, _, .field _ shape _ rest, octets => do
    let (value, octets) ← shape.readBinary octets
    let (values, octets) ← rest.readBinary octets
    return ((value, values), octets)

end

end Telemetry
