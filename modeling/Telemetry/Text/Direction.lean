import Telemetry.Text.Printable

/-!
Which way characters are read, and which texts can be read without a doubt about it:
a text goes one way only, has marks and numbers of that way inside, and shows at both
of its ends which way it is. Symbols are told apart block by block.
-/

namespace Telemetry

inductive Direction
  | left
  | right
  | number
  | arabicNumber
  | neutral
  | mark
  deriving DecidableEq, Repr

namespace Direction

/-- Letters that are read from right to left. -/
def rights : Ranges := [
  (0x05BE, 0x05F4), (0x0608, 0x0608), (0x060B, 0x060B), (0x060D, 0x060D), (0x061B, 0x064A),
  (0x066D, 0x06D5), (0x06E5, 0x06E6), (0x06EE, 0x06EF), (0x06FA, 0x07F5), (0x07FA, 0x088F),
  (0x08A0, 0x08C9), (0xFB1D, 0xFB28), (0xFB2A, 0xFD3D), (0xFD50, 0xFDC7), (0xFDF0, 0xFDFC),
  (0xFE70, 0xFEFC), (0x10800, 0x1091B), (0x10920, 0x10B35), (0x10B40, 0x10D23),
  (0x10D4A, 0x10D8F), (0x10E80, 0x10FF6), (0x1E800, 0x1EEBB)]

def arabicNumbers : Ranges := [
  (0x0600, 0x0605), (0x0660, 0x0669), (0x066B, 0x066C), (0x06DD, 0x06DD), (0x0890, 0x0891),
  (0x08E2, 0x08E2), (0x10D30, 0x10D49), (0x10E60, 0x10E7E)]

/-- Numbers outside ASCII that are read as those in it. -/
def numbers : Ranges := [
  (0x00B2, 0x00B3), (0x00B9, 0x00B9), (0x00BC, 0x00BE), (0x06F0, 0x06F9), (0x2070, 0x2070),
  (0x2074, 0x2079), (0x2080, 0x2089), (0x2150, 0x215F), (0x2460, 0x249B),
  (0x24EA, 0x24EA), (0x102E1, 0x102FB), (0x1D7CE, 0x1D7FF), (0x1F100, 0x1F10A),
  (0x1FBF0, 0x1FBF9)]

/-- Symbols and blanks outside ASCII. -/
def neutrals : Ranges := [
  (0x0080, 0x00A9), (0x00AB, 0x00B1), (0x00B4, 0x00B4), (0x00B6, 0x00B8), (0x00BB, 0x00BF),
  (0x00D7, 0x00D7), (0x00F7, 0x00F7), (0x02B9, 0x02BA), (0x02C2, 0x02CF), (0x02D2, 0x02DF),
  (0x02E5, 0x02ED), (0x02EF, 0x02FF), (0x0374, 0x0375), (0x037E, 0x037E), (0x0384, 0x0385),
  (0x0387, 0x0387), (0x03F6, 0x03F6), (0x058A, 0x058F), (0x0606, 0x0607), (0x0609, 0x060A),
  (0x060C, 0x060C), (0x060E, 0x060F), (0x066A, 0x066A), (0x06DE, 0x06DE), (0x06E9, 0x06E9),
  (0x07F6, 0x07F9), (0x2010, 0x206F), (0x207A, 0x207E), (0x208A, 0x208E), (0x20A0, 0x20CF),
  (0x2190, 0x245F), (0x2500, 0x2BFF), (0x2E00, 0x3004), (0x3008, 0x3020), (0x30FB, 0x30FB),
  (0x4DC0, 0x4DFF), (0xFB29, 0xFB29), (0xFD3E, 0xFD4F), (0xFDCF, 0xFDCF), (0xFDFD, 0xFE6F),
  (0x1091F, 0x1091F), (0x10B39, 0x10B3F), (0x1EEF0, 0x1F0FF), (0x1F300, 0x1FAFF)]

def ofAscii (c : Char) : Direction :=
  if c.isAlpha then left else if c.isDigit then number else neutral

/-- What is not shown by itself extends the character before it. -/
def ofChar (c : Char) : Direction :=
  if c.toNat < 0x80 then ofAscii c
  else if arabicNumbers.has c then arabicNumber
  else if !Printable.isPrintable c then mark
  else if rights.has c then right
  else if numbers.has c then number
  else if neutrals.has c then neutral
  else left

/-- Whether a text with these directions holds anything that is read from right to
left. -/
def turns (directions : List Direction) : Bool :=
  directions.any fun d => d = right || d = arabicNumber

/-- Whether a text that is no part of a longer one goes one way only. -/
def isClear (directions : List Direction) : Bool :=
  let last? := directions.reverse.find? (· ≠ mark)
  match directions.head? with
  | none => true
  | some .left => !turns directions && (last? = some left || last? = some number)
  | some .right =>
    !directions.contains left && last? ≠ some neutral &&
      !(directions.contains number && directions.contains arabicNumber)
  | some _ => false

/-- Whether the parts of a text can be told apart by their directions. A text that
never turns is read from left to right. -/
def areClear (parts : List (List Char)) : Bool :=
  let directions := parts.map (·.map ofChar)
  !directions.any turns || directions.all isClear

end Direction

end Telemetry
