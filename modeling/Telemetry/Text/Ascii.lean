/-!
Octets read as ASCII text: letters, digits, blanks and decimal numbers.
-/

namespace Telemetry.Ascii

def isDecimal (octet : UInt8) : Bool :=
  48 ≤ octet && octet ≤ 57

def isLetter (octet : UInt8) : Bool :=
  65 ≤ octet && octet ≤ 90 || 97 ≤ octet && octet ≤ 122

def lower (octet : UInt8) : UInt8 :=
  if 65 ≤ octet ∧ octet ≤ 90 then octet + 32 else octet

def decimal? (octets : List UInt8) : Option Nat :=
  if !octets.isEmpty && octets.all isDecimal then
    some (octets.foldl (fun n octet => n * 10 + (octet.toNat - 48)) 0)
  else none

/-- A space or a tab. -/
def isBlank (octet : UInt8) : Bool :=
  octet = 32 || octet = 9

end Telemetry.Ascii
