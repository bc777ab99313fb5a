/-!
UTF-8 as a writer of characters and a machine that reads one octet at a time.
The machine names the first octet sequence that spells no character by where it
starts and by how many of its octets could still have begun one; both are part
of what a collector is told about a bad body.
-/

namespace Telemetry.Utf8

/-- The octets of one character: its code in base 64, high digits first, under
a lead that gives their number. -/
def encodeChar (c : Char) : List UInt8 :=
  let code := c.toNat
  if code < 0x80 then
    [.ofNat code]
  else if code < 0x800 then
    [.ofNat (0xC0 + code / 0x40), .ofNat (0x80 + code % 0x40)]
  else if code < 0x10000 then
    [.ofNat (0xE0 + code / 0x1000), .ofNat (0x80 + code / 0x40 % 0x40),
      .ofNat (0x80 + code % 0x40)]
  else
    [.ofNat (0xF0 + code / 0x40000), .ofNat (0x80 + code / 0x1000 % 0x40),
      .ofNat (0x80 + code / 0x40 % 0x40), .ofNat (0x80 + code % 0x40)]

def encodeChars (cs : List Char) : List UInt8 :=
  cs.flatMap encodeChar

def encode (s : String) : List UInt8 :=
  encodeChars s.toList

/-- What rules a sequence out: the octets end inside a character, or the first
`length` of them cannot be continued to one. -/
inductive Flaw
  | cutShort
  | invalid (length : Nat)
  deriving DecidableEq, Repr

structure Fault where
  index : Nat
  flaw : Flaw
  deriving DecidableEq, Repr

def Fault.message (fault : Fault) : String :=
  match fault.flaw with
  | .cutShort => s!"incomplete utf-8 byte sequence from index {fault.index}"
  | .invalid length =>
    s!"invalid utf-8 sequence of {length} bytes from index {fault.index}"

/-- A character whose first `got` octets are read: `owed` more are due, and the
next one lies between `low` and `high`. -/
structure Unfinished where
  code : Nat
  got : Nat
  owed : Nat
  low : Nat
  high : Nat

/-- The lead octets of longer characters. The bounds on the second octet keep
out overlong forms, surrogates and codes past the last one. -/
def Unfinished.ofLead? (lead : Nat) : Option Unfinished :=
  if lead < 0xC2 then none
  else if lead < 0xE0 then some ⟨lead - 0xC0, 1, 1, 0x80, 0xBF⟩
  else if lead < 0xF0 then
    some ⟨lead - 0xE0, 1, 2, if lead = 0xE0 then 0xA0 else 0x80,
      if lead = 0xED then 0x9F else 0xBF⟩
  else if lead < 0xF5 then
    some ⟨lead - 0xF0, 1, 3, if lead = 0xF0 then 0x90 else 0x80,
      if lead = 0xF4 then 0x8F else 0xBF⟩
  else none

/-- Reads on from octet `index`, where the open character began if there is one. -/
def decodeFrom (index : Nat) : Option Unfinished → List UInt8 → Except Fault (List Char)
  | none, [] => .ok []
  | some _, [] => .error ⟨index, .cutShort⟩
  | none, octet :: rest =>
    if octet.toNat < 0x80 then do
      let cs ← decodeFrom (index + 1) none rest
      return Char.ofNat octet.toNat :: cs
    else
      match Unfinished.ofLead? octet.toNat with
      | none => .error ⟨index, .invalid 1⟩
      | some begun => decodeFrom index (some begun) rest
  | some begun, octet :: rest =>
    if begun.low ≤ octet.toNat ∧ octet.toNat ≤ begun.high then
      let code := begun.code * 0x40 + (octet.toNat - 0x80)
      if begun.owed = 1 then do
        let cs ← decodeFrom (index + begun.got + 1) none rest
        return Char.ofNat code :: cs
      else
        decodeFrom index (some ⟨code, begun.got + 1, begun.owed - 1, 0x80, 0xBF⟩) rest
    else
      .error ⟨index, .invalid begun.got⟩

def decode (octets : List UInt8) : Except Fault String :=
  (decodeFrom 0 none octets).map String.ofList

end Telemetry.Utf8
