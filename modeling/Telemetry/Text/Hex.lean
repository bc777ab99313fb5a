/-!
Lower-case hexadecimal, two digits to an octet, and its reading in either case.
-/

namespace Telemetry.Hex

def digit (n : Nat) : Char :=
  if n < 10 then Char.ofNat (48 + n) else Char.ofNat (87 + n)

def encodeOctet (octet : UInt8) : List Char :=
  [digit (octet.toNat / 16), digit (octet.toNat % 16)]

def encode (octets : List UInt8) : String :=
  String.ofList (octets.flatMap encodeOctet)

def value? (code : Nat) : Option Nat :=
  if 48 ≤ code ∧ code ≤ 57 then some (code - 48)
  else if 97 ≤ code ∧ code ≤ 102 then some (code - 87)
  else if 65 ≤ code ∧ code ≤ 70 then some (code - 55)
  else none

def decodeChars? : List Char → Option (List UInt8)
  | [] => some []
  | [_] => none
  | high :: low :: rest => do
    let h ← value? high.toNat
    let l ← value? low.toNat
    let octets ← decodeChars? rest
    return .ofNat (16 * h + l) :: octets

def decode? (s : String) : Option (List UInt8) :=
  decodeChars? s.toList

end Telemetry.Hex
