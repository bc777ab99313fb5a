import Telemetry.Json.Document
import Telemetry.Text.Hex

/-!
From octets to a document. Reading never fails: it stops at the first octet that
no JSON text has there and leaves a break. The steps are bounded by the number
of octets, since every value and every mark takes at least one.
-/

namespace Telemetry.Json

def isBlank (octet : UInt8) : Bool :=
  octet = 0x20 || octet = 0x09 || octet = 0x0A || octet = 0x0D

def skipBlanks (octets : List UInt8) : List UInt8 :=
  octets.dropWhile isBlank

/-! ## Strings

A string is first cut into pieces, which is all that skipping it takes. The
pieces are then spelled out: escaped surrogates are joined, and the octets that
result have to be UTF-8. -/

inductive Piece
  | octet (octet : UInt8)
  | unit (code : Nat)
  deriving DecidableEq, Repr

/-- A broken string has a second cause, for a reader that waits for the second
half of a surrogate pair at that place. -/
inductive StringEnd
  | closed (rest : List UInt8)
  | broken (cause inPair : Cause)

structure Pieces where
  pieces : List Piece
  ending : StringEnd

def Pieces.cons (piece : Piece) (more : Pieces) : Pieces :=
  ⟨piece :: more.pieces, more.ending⟩

/-- The octet that a one-letter escape stands for. -/
def plainEscape? (mark : UInt8) : Option UInt8 :=
  if mark = 34 ∨ mark = 92 ∨ mark = 47 then some mark
  else if mark = 98 then some 8
  else if mark = 102 then some 12
  else if mark = 110 then some 10
  else if mark = 114 then some 13
  else if mark = 116 then some 9
  else none

def hexUnit? (a b c d : UInt8) : Option Nat := do
  let w ← Hex.value? a.toNat
  let x ← Hex.value? b.toNat
  let y ← Hex.value? c.toNat
  let z ← Hex.value? d.toNat
  return ((w * 16 + x) * 16 + y) * 16 + z

/-- The pieces of the string whose opening quote has been read. -/
def scanString : List UInt8 → Pieces
  | [] => ⟨[], .broken .endInString .endInString⟩
  | octet :: rest =>
    if octet = 34 then ⟨[], .closed rest⟩
    else if octet < 0x20 then ⟨[], .broken .controlCharacter .unfinishedSurrogate⟩
    else if octet ≠ 92 then (scanString rest).cons (.octet octet)
    else
      match rest with
      | [] => ⟨[], .broken .endInString .endInString⟩
      | mark :: rest =>
        if mark = 117 then
          match rest with
          | a :: b :: c :: d :: rest =>
            match hexUnit? a b c d with
            | some code => (scanString rest).cons (.unit code)
            | none => ⟨[], .broken .invalidEscape .invalidEscape⟩
          | _ => ⟨[], .broken .endInString .endInString⟩
        else
          match plainEscape? mark with
          | some octet => (scanString rest).cons (.octet octet)
          | none => ⟨[], .broken .invalidEscape .unfinishedSurrogate⟩

/-- What the end of the pieces gives, with or without half a pair open. -/
def StringEnd.finish : StringEnd → (halfPair : Bool) → Except Cause (List UInt8)
  | .closed _, false => .ok []
  | .closed _, true => .error .unfinishedSurrogate
  | .broken cause _, false => .error cause
  | .broken _ inPair, true => .error inPair

/-- The octets of the pieces; `lead` is the first half of a surrogate pair. -/
def spell (ending : StringEnd) : Option Nat → List Piece → Except Cause (List UInt8)
  | lead, [] => ending.finish lead.isSome
  | none, .octet octet :: rest => do
    let octets ← spell ending none rest
    return octet :: octets
  | some _, .octet _ :: _ => .error .unfinishedSurrogate
  | none, .unit code :: rest =>
    if 0xDC00 ≤ code ∧ code ≤ 0xDFFF then .error .loneSurrogate
    else if 0xD800 ≤ code ∧ code ≤ 0xDBFF then spell ending (some code) rest
    else do
      let octets ← spell ending none rest
      return Utf8.encodeChar (Char.ofNat code) ++ octets
  | some lead, .unit code :: rest =>
    if 0xDC00 ≤ code ∧ code ≤ 0xDFFF then do
      let octets ← spell ending none rest
      let joined := 0x10000 + (lead - 0xD800) * 0x400 + (code - 0xDC00)
      return Utf8.encodeChar (Char.ofNat joined) ++ octets
    else .error .loneSurrogate

def Pieces.text (scanned : Pieces) : Except Cause String := do
  let octets ← spell scanned.ending none scanned.pieces
  match Utf8.decode octets with
  | .ok s => .ok s
  | .error _ => .error .invalidCodePoint

/-- The cause of a broken string for a reader of values, which may have stopped
before the place where skipping does. -/
def Pieces.strictCause (scanned : Pieces) (cause : Cause) : Cause :=
  match spell scanned.ending none scanned.pieces with
  | .ok _ => cause
  | .error strict => strict

/-! ## Numbers -/

def isDigit (octet : UInt8) : Bool :=
  48 ≤ octet && octet ≤ 57

def digitValues (octets : List UInt8) : List Nat :=
  octets.map fun octet => octet.toNat - 48

def ofDigits (digits : List Nat) : Nat :=
  digits.foldl (fun n d => n * 10 + d) 0

/-- The parts of a number as they are written. -/
structure Numeral where
  negative : Bool
  whole : List Nat
  fraction : Option (List Nat)
  exponent : Option Int
  deriving DecidableEq, Repr

def Numeral.float (numeral : Numeral) : Except Cause Number :=
  match Double.ofDigits? numeral.negative numeral.whole (numeral.fraction.getD [])
      (numeral.exponent.getD 0) with
  | some x => .ok (.float x)
  | none => .error .numberOutOfRange

/-- A number without point and exponent is exact if it fits 64 bits with its
sign; minus zero and all others are doubles. -/
def Numeral.value (numeral : Numeral) : Except Cause Number :=
  match numeral.fraction, numeral.exponent with
  | none, none =>
    let size := ofDigits numeral.whole
    if numeral.negative then
      if 0 < size ∧ size ≤ 0x8000000000000000 then .ok (.int (-size)) else numeral.float
    else if size < 0x10000000000000000 then .ok (.int size)
    else numeral.float
  | _, _ => numeral.float

/-- A digit is due at these octets and there is none. -/
def noDigit (octets : List UInt8) : Break :=
  ⟨if octets.isEmpty then .endInValue else .invalidNumber, .invalidNumber, octets⟩

/-- At least one digit, and what follows. -/
def scanDigits (octets : List UInt8) : Except Break (List Nat × List UInt8) :=
  let digits := octets.takeWhile isDigit
  let rest := octets.dropWhile isDigit
  if digits.isEmpty then .error (noDigit rest) else .ok (digitValues digits, rest)

def scanWhole (octets : List UInt8) : Except Break (List Nat × List UInt8) := do
  let (digits, rest) ← scanDigits octets
  if digits.length > 1 ∧ digits.head? = some 0 then
    .error (.same .invalidNumber rest)
  else
    .ok (digits, rest)

def scanFraction (octets : List UInt8) : Except Break (Option (List Nat) × List UInt8) :=
  match octets with
  | 46 :: rest => do
    let (digits, rest) ← scanDigits rest
    return (some digits, rest)
  | _ => .ok (none, octets)

def scanExponent (octets : List UInt8) : Except Break (Option Int × List UInt8) :=
  match octets with
  | mark :: rest =>
    if mark = 101 ∨ mark = 69 then
      match rest with
      | 45 :: rest => do
        let (digits, rest) ← scanDigits rest
        return (some (-(ofDigits digits : Int)), rest)
      | 43 :: rest => do
        let (digits, rest) ← scanDigits rest
        return (some (ofDigits digits : Int), rest)
      | _ => do
        let (digits, rest) ← scanDigits rest
        return (some (ofDigits digits : Int), rest)
    else .ok (none, octets)
  | [] => .ok (none, [])

def scanNumber (octets : List UInt8) : Except Break (Numeral × List UInt8) := do
  let negative := octets.head? = some 45
  let (whole, rest) ← scanWhole (if negative then octets.tail else octets)
  let (fraction, rest) ← scanFraction rest
  let (exponent, rest) ← scanExponent rest
  return (⟨negative, whole, fraction, exponent⟩, rest)

/-! ## Values -/

/-- A document or a part of one, and the octets after it unless it is broken. -/
structure Reading (α : Type) where
  value : α
  rest : Except Break (List UInt8)

def Reading.broken (place : Break) : Reading Document :=
  ⟨.broken place, .error place⟩

/-- The rest of a word, octet by octet. -/
def scanWord : List UInt8 → List UInt8 → Except Cause (List UInt8)
  | [], rest => .ok rest
  | _ :: _, [] => .error .endInValue
  | due :: more, octet :: rest =>
    if octet = due then scanWord more rest else .error .expectedIdent

def readWord (value : Document) (word octets : List UInt8) : Reading Document :=
  match scanWord word octets with
  | .ok rest => ⟨value, .ok rest⟩
  | .error cause => .broken (.same cause octets)

def readString (octets : List UInt8) : Reading Document :=
  let scanned := scanString octets
  match scanned.ending with
  | .closed rest => ⟨.string scanned.text, .ok rest⟩
  | .broken cause _ => .broken ⟨scanned.strictCause cause, cause, 34 :: octets⟩

def readNumber (octets : List UInt8) : Reading Document :=
  match scanNumber octets with
  | .ok (numeral, rest) => ⟨.number numeral.value, .ok rest⟩
  | .error place => .broken { place with rest := octets }

def closedOr (rest : Except Break (List UInt8)) : Option Break :=
  match rest with
  | .ok _ => none
  | .error place => some place

mutual

/-- Reads one value, `steps` bounding the calls below this one. -/
def readValue : Nat → List UInt8 → Reading Document
  | 0, octets => .broken (.same .tooDeep octets)
  | steps + 1, octets =>
    match skipBlanks octets with
    | [] => .broken (.same .endInValue [])
    | octet :: rest =>
      if octet = 34 then readString rest
      else if octet = 91 then
        match skipBlanks rest with
        | [] => ⟨.array [] (some (.same .endInList [])), .error (.same .endInList [])⟩
        | next :: after =>
          if next = 93 then ⟨.array [] none, .ok after⟩
          else
            let items := readItems steps (next :: after)
            ⟨.array items.value (closedOr items.rest), items.rest⟩
      else if octet = 123 then
        match skipBlanks rest with
        | [] => ⟨.object [] (some (.same .endInObject [])), .error (.same .endInObject [])⟩
        | next :: after =>
          if next = 125 then ⟨.object [] none, .ok after⟩
          else if next = 34 then
            let members := readMembers steps after
            ⟨.object members.value (closedOr members.rest), members.rest⟩
          else
            let place := .same .keyNotString (next :: after)
            ⟨.object [] (some place), .error place⟩
      else if octet = 110 then readWord .null [110, 117, 108, 108] (octet :: rest)
      else if octet = 116 then readWord (.bool true) [116, 114, 117, 101] (octet :: rest)
      else if octet = 102 then
        readWord (.bool false) [102, 97, 108, 115, 101] (octet :: rest)
      else if octet = 45 ∨ isDigit octet then readNumber (octet :: rest)
      else .broken (.same .expectedValue (octet :: rest))

/-- Reads the items of an array from the first one on, and the closing bracket. -/
def readItems : Nat → List UInt8 → Reading (List Document)
  | 0, octets => ⟨[], .error (.same .tooDeep octets)⟩
  | steps + 1, octets =>
    let item := readValue steps octets
    match item.rest with
    | .error place => ⟨[item.value], .error place⟩
    | .ok rest =>
      match skipBlanks rest with
      | [] => ⟨[item.value], .error (.same .endInList [])⟩
      | octet :: rest =>
        if octet = 93 then ⟨[item.value], .ok rest⟩
        else if octet = 44 then
          match skipBlanks rest with
          | [] => ⟨[item.value], .error (.same .endInValue [])⟩
          | next :: after =>
            if next = 93 then
              ⟨[item.value], .error ⟨.trailingComma, .expectedValue, next :: after⟩⟩
            else
              let more := readItems steps (next :: after)
              ⟨item.value :: more.value, more.rest⟩
        else ⟨[item.value], .error (.same .expectedCommaOrListEnd (octet :: rest))⟩

/-- Reads the members of an object from the first key on, whose opening quote
has been read, and the closing brace. -/
def readMembers : Nat → List UInt8 → Reading (List (Except Cause String × Document))
  | 0, octets => ⟨[], .error (.same .tooDeep octets)⟩
  | steps + 1, octets =>
    let scanned := scanString octets
    match scanned.ending with
    | .broken cause _ =>
      ⟨[], .error ⟨scanned.strictCause cause, cause, 34 :: octets⟩⟩
    | .closed rest =>
      let key := scanned.text
      match skipBlanks rest with
      | [] =>
        let place := .same .endInObject []
        ⟨[(key, .broken place)], .error place⟩
      | octet :: rest =>
        if octet = 58 then
          let value := readValue steps rest
          match value.rest with
          | .error place => ⟨[(key, value.value)], .error place⟩
          | .ok rest =>
            match skipBlanks rest with
            | [] => ⟨[(key, value.value)], .error (.same .endInObject [])⟩
            | octet :: rest =>
              if octet = 125 then ⟨[(key, value.value)], .ok rest⟩
              else if octet = 44 then
                match skipBlanks rest with
                | [] => ⟨[(key, value.value)], .error ⟨.endInValue, .endInObject, []⟩⟩
                | next :: after =>
                  if next = 34 then
                    let more := readMembers steps after
                    ⟨(key, value.value) :: more.value, more.rest⟩
                  else if next = 125 then
                    ⟨[(key, value.value)],
                      .error ⟨.trailingComma, .keyNotString, next :: after⟩⟩
                  else
                    ⟨[(key, value.value)], .error (.same .keyNotString (next :: after))⟩
              else
                ⟨[(key, value.value)],
                  .error (.same .expectedCommaOrObjectEnd (octet :: rest))⟩
        else
          let place := .same .expectedColon (octet :: rest)
          ⟨[(key, .broken place)], .error place⟩

end

/-- Each value and each mark is reached by at most two calls. -/
def readSteps (octets : List UInt8) : Nat :=
  2 * octets.length + 2

/-- Reads the value at the start of the octets. -/
def readDocument (octets : List UInt8) : Reading Document :=
  readValue (readSteps octets) octets

/-- Reads a whole text as `use` reads its document. Whatever `use` objects to
comes first, and only blanks may follow the value. -/
def readText {ε α : Type} (octets : List UInt8) (wrong : Cause → ε)
    (use : Document → Except ε α) : Except ε α := do
  let reading := readDocument octets
  let value ← use reading.value
  match reading.rest with
  | .ok rest =>
    if (skipBlanks rest).isEmpty then .ok value else .error (wrong .trailingCharacters)
  | .error place => .error (wrong place.strict)

end Telemetry.Json
