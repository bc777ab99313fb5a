import Telemetry.Number.Double
import Telemetry.Text.Utf8

/-!
JSON values and their compact text. Whole numbers are kept exact; every other
number is a double. The members of an object are written in the order in which
they are listed, so a record writes its fields in its own order.
-/

namespace Telemetry

inductive Json.Number
  | int (n : Int)
  | float (x : Float)

inductive Json
  | null
  | bool (b : Bool)
  | number (n : Json.Number)
  | string (s : String)
  | array (items : List Json)
  | object (members : List (String × Json))

namespace Json

/-- A double has a point or an exponent, so it is never read back as a whole
number. The plain form ends at 10^-5 and at 10^16. -/
def doubleLayout : Double.Layout where
  plain point := -5 < point && point ≤ 16
  whole := ".0"
  exponentPlus := "+"
  tie := .toEven

def Number.text : Number → String
  | .int n => toString n
  | .float x => Double.text doubleLayout x

/-- Quotes, backslashes and control characters are escaped, the latter in the
short form where there is one. -/
def escape (c : Char) : List Char :=
  if c = '"' then ['\\', '"']
  else if c = '\\' then ['\\', '\\']
  else if c.toNat < 0x20 then
    if c.toNat = 8 then ['\\', 'b']
    else if c.toNat = 9 then ['\\', 't']
    else if c.toNat = 10 then ['\\', 'n']
    else if c.toNat = 12 then ['\\', 'f']
    else if c.toNat = 13 then ['\\', 'r']
    else ['\\', 'u', '0', '0', if c.toNat < 0x10 then '0' else '1',
      Nat.digitChar (c.toNat % 16)]
  else [c]

def quoted (s : String) : List Char :=
  '"' :: (s.toList.flatMap escape ++ ['"'])

mutual

def chars : Json → List Char
  | null => ['n', 'u', 'l', 'l']
  | bool true => ['t', 'r', 'u', 'e']
  | bool false => ['f', 'a', 'l', 's', 'e']
  | number n => n.text.toList
  | string s => quoted s
  | array items => '[' :: itemChars items
  | object members => '\x7b' :: memberChars members

/-- What follows the opening bracket. -/
def itemChars : List Json → List Char
  | [] => [']']
  | first :: rest => chars first ++ moreItemChars rest

def moreItemChars : List Json → List Char
  | [] => [']']
  | next :: rest => ',' :: (chars next ++ moreItemChars rest)

def memberChars : List (String × Json) → List Char
  | [] => ['\x7d']
  | (key, value) :: rest =>
    quoted key ++ ':' :: (chars value ++ moreMemberChars rest)

def moreMemberChars : List (String × Json) → List Char
  | [] => ['\x7d']
  | (key, value) :: rest =>
    ',' :: (quoted key ++ ':' :: (chars value ++ moreMemberChars rest))

end

def text (value : Json) : String :=
  String.ofList value.chars

def octets (value : Json) : List UInt8 :=
  Utf8.encodeChars value.chars

end Json

end Telemetry
