import Telemetry.Text.Direction
import Telemetry.Text.Hex
import Telemetry.Text.Parts
import Telemetry.Text.Punycode
import Telemetry.Text.Utf8

/-!
Names of hosts: labels with full stops between them. A name may be written with escaped
octets, in either case and with wide forms of the ASCII characters. Of characters
outside ASCII these forms, digits of other shapes, those that a name drops, those that
no name may hold, and the ways that they are read are told apart.
-/

namespace Telemetry.Http.Name

/-- Letters, digits and marks of ASCII that may stand in a name. -/
def isPlain (c : Char) : Bool :=
  c.isAlphanum || "-._~!$&'()*+,;=".toList.contains c

/-- Characters without a shape, which a name drops. -/
def dropped : Ranges := [
  (0x00AD, 0x00AD), (0x034F, 0x034F), (0x180B, 0x180D), (0x180F, 0x180F), (0x200B, 0x200B),
  (0x2060, 0x2060), (0x2064, 0x2064), (0xFE00, 0xFE0F), (0xFEFF, 0xFEFF), (0x1BCA0, 0x1BCA3),
  (0xE0100, 0xE01EF)]

/-- Controls, blanks, marks of direction, joiners, characters that spell a blank, a full
stop or another mark, private ones and those that are none. -/
def refused : Ranges := [
  (0x0080, 0x00A0), (0x00A8, 0x00A8), (0x00AF, 0x00AF), (0x00B4, 0x00B4), (0x00B8, 0x00B8),
  (0x02D8, 0x02DD), (0x037A, 0x037A), (0x0384, 0x0385), (0x0600, 0x0605), (0x061C, 0x061C),
  (0x06DD, 0x06DD), (0x070F, 0x070F), (0x1680, 0x1680), (0x180E, 0x180E), (0x1FBD, 0x1FBD),
  (0x1FBF, 0x1FC1), (0x1FCD, 0x1FCF), (0x1FDD, 0x1FDF), (0x1FED, 0x1FEE), (0x1FFD, 0x1FFE),
  (0x2000, 0x200A), (0x200C, 0x200F), (0x2017, 0x2017), (0x2024, 0x2026), (0x2028, 0x202F),
  (0x203E, 0x203E), (0x2047, 0x2049), (0x205F, 0x205F), (0x2061, 0x2063), (0x2065, 0x206F),
  (0x2100, 0x2101), (0x2105, 0x2106), (0x2488, 0x249B), (0x2A74, 0x2A74), (0x3000, 0x3000),
  (0x309B, 0x309C), (0x33C2, 0x33C2), (0x33C7, 0x33C7), (0x33D8, 0x33D8), (0xE000, 0xF8FF),
  (0xFDD0, 0xFDEF), (0xFE12, 0xFE13), (0xFE16, 0xFE16), (0xFE19, 0xFE19), (0xFE30, 0xFE30),
  (0xFE47, 0xFE4C), (0xFE52, 0xFE52), (0xFE55, 0xFE56), (0xFE5F, 0xFE5F), (0xFE64, 0xFE65),
  (0xFE68, 0xFE68), (0xFE6A, 0xFE6B), (0xFFE3, 0xFFE3), (0xFFF0, 0xFFFF), (0x1F100, 0x1F100),
  (0x1FFFE, 0x1FFFF), (0x2FFFE, 0x2FFFF), (0x3FFFE, 0xE00FF), (0xE01F0, 0x10FFFF)]

/-- Raised, lowered, ringed and styled digits, each row with the digit it begins with. -/
def digitRows : List (Nat × Nat × Nat) := [
  (0xB2, 0xB3, 2), (0xB9, 0xB9, 1), (0x2070, 0x2070, 0), (0x2074, 0x2079, 4),
  (0x2080, 0x2089, 0), (0x2460, 0x2468, 1), (0x24EA, 0x24EA, 0), (0x1D7CE, 0x1D7FF, 0),
  (0x1FBF0, 0x1FBF9, 0)]

def digitForm? (c : Char) : Option Char :=
  (digitRows.find? fun (first, last, _) => first ≤ c.toNat && c.toNat ≤ last).map
    fun (first, _, digit) => Char.ofNat (48 + (digit + c.toNat - first) % 10)

/-- The character that a name holds for one that is written. -/
def fold (c : Char) : Char :=
  if let some digit := digitForm? c then digit
  else if 0xFF01 ≤ c.toNat ∧ c.toNat ≤ 0xFF5E then (Char.ofNat (c.toNat - 0xFEE0)).toLower
  else if c.toNat = 0x3002 ∨ c.toNat = 0xFF61 then '.'
  else c.toLower

def isNameChar (c : Char) : Bool :=
  if c.toNat < 0x80 then isPlain c else !refused.has c

/-- Nothing that extends the character before it may come first. -/
def isShown (label : List Char) : Bool :=
  label.all isNameChar && label.head?.all Printable.isPrintable

/-- The label that a label stands for. One that spells another one has to spell what
could not stand there. -/
def label? (label : List Char) : Option (List Char) :=
  match label with
  | 'x' :: 'n' :: '-' :: '-' :: text => do
    let spelled ← Punycode.decode? text
    let isFolded (c : Char) : Bool := !dropped.has c && fold c = c
    if spelled.any (128 ≤ ·.toNat) && isShown spelled && spelled.all isFolded then
      some spelled
    else none
  | _ => if isShown label then some label else none

/-- The octets of a text with its escaped octets read. -/
def unescape : List UInt8 → List UInt8
  | 37 :: high :: low :: rest =>
    match Hex.value? high.toNat, Hex.value? low.toNat with
    | some h, some l => .ofNat (16 * h + l) :: unescape rest
    | _, _ => 37 :: unescape (high :: low :: rest)
  | octet :: rest => octet :: unescape rest
  | [] => []

/-- The name that a text spells, if it is one. -/
def ofText? (text : List Char) : Option (List Char) := do
  let written ← (Utf8.decode (unescape (Utf8.encodeChars text))).toOption
  let name := (written.toList.filter (!dropped.has ·)).map fold
  let labels ← (Parts.split (· = '.') name).mapM label?
  if name.isEmpty || !Direction.areClear labels then none else some name

end Telemetry.Http.Name
