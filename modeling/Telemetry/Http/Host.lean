import Telemetry.Http.Name

/-!
Hosts in addresses: a name, a number of four octets, or a longer number in brackets.
A name that ends in a number has to be a number of four octets.
-/

namespace Telemetry.Http.Host

/-! ## Numbers of four octets -/

def digitValue? (base : Nat) (c : Char) : Option Nat :=
  (Hex.value? c.toNat).filter (· < base)

def digits? (base : Nat) (digits : List Char) : Option Nat :=
  (digits.mapM (digitValue? base)).map (·.foldl (fun n digit => n * base + digit) 0)

/-- A number in base 16 after `0x`, in base 8 after another `0`, or in base 10. -/
def number? : List Char → Option Nat
  | [] => none
  | '0' :: 'x' :: digits => digits? 16 digits
  | '0' :: 'X' :: digits => digits? 16 digits
  | ['0'] => some 0
  | '0' :: digits => digits? 8 digits
  | digits => digits? 10 digits

/-- The parts of a name, without an empty one at its end. -/
def parts (name : List Char) : List (List Char) :=
  let labels := Parts.split (· = '.') name
  if labels.length ≠ 1 ∧ labels.getLast? = some [] then labels.dropLast else labels

def endsInNumber (name : List Char) : Bool :=
  (parts name).getLast?.any fun last =>
    !last.isEmpty && (last.all Char.isDigit || (number? last).isSome)

/-- Up to four numbers: octets, and at the end what the missing ones make up. -/
def isFourOctets (name : List Char) : Bool :=
  match (parts name).mapM number? with
  | none => false
  | some numbers =>
    numbers.length ≤ 4 && numbers.dropLast.all (· < 256) &&
      numbers.getLast?.any (· < 1 <<< (8 * (5 - numbers.length)))

/-! ## Numbers in brackets -/

/-- The number of groups of sixteen bits that a part stands for. Four octets with
full stops between them, which may come at the end, stand for two. -/
def groups? (isLast : Bool) (part : List Char) : Option Nat :=
  let isOctet (digits : List Char) : Bool :=
    digits.all Char.isDigit && (digits.length = 1 || digits.head?.any (· ≠ '0')) &&
      (digits? 10 digits).any (· < 256) && !digits.isEmpty
  if !part.isEmpty && part.length ≤ 4 && (digits? 16 part).isSome then some 1
  else
    let octets := Parts.split (· = '.') part
    if isLast && octets.length = 4 && octets.all isOctet then some 2 else none

/-- The groups of a text of parts between colons. -/
def count? (isLast : Bool) (text : List Char) : Option Nat :=
  if text.isEmpty then some 0
  else
    let parts := Parts.split (· = ':') text
    match parts.dropLast.mapM (groups? false), parts.getLast?.bind (groups? isLast) with
    | some counts, some last => some (counts.foldr (· + ·) last)
    | _, _ => none

/-- The texts before and after the first two colons in a row. -/
def divideGap? : List Char → Option (List Char × List Char)
  | ':' :: ':' :: rest => some ([], rest)
  | c :: rest => (divideGap? rest).map fun (before, after) => (c :: before, after)
  | [] => none

/-- Eight groups, or fewer around a gap. -/
def isEightGroups (text : List Char) : Bool :=
  match divideGap? text with
  | none => count? true text = some 8
  | some (before, after) =>
    match count? false before, count? true after with
    | some first, some second => first + second ≤ 7
    | _, _ => false

/-! ## Hosts -/

/-- The name that a text spells, if a server can be reached under it. -/
def name? (text : List Char) : Option (List Char) :=
  (Name.ofText? text).filter fun name => !endsInNumber name || isFourOctets name

/-- The text in brackets, if it begins with one. -/
def bracketed? : List Char → Option (List Char)
  | '[' :: rest => some (if rest.getLast? = some ']' then rest.dropLast else [])
  | _ => none

/-- Whether a server can be reached under this host. -/
def isHost (text : List Char) : Bool :=
  match bracketed? text with
  | some address => isEightGroups address
  | none => (name? text).isSome

/-- Whether this is a host of an address whose scheme says nothing about names. -/
def isBareHost (text : List Char) : Bool :=
  match bracketed? text with
  | some address => isEightGroups address
  | none => !text.isEmpty && text.all Name.isPlain

end Telemetry.Http.Host
