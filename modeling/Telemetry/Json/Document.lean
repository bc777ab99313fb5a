import Telemetry.Json.Value

/-!
A JSON text as it is written: the members of an object in text order, repeated
ones included, and, where the text stops being JSON, a break. A break keeps what
is wrong there for a reader of values and for one that only skips, because a
skipped value is held to less: nothing but its brackets, quotes and digits. The
document says nothing about what a value is for; readers of one kind of value
walk it in text order and stop at the first thing they cannot use.
-/

namespace Telemetry.Json

inductive Cause
  | endInValue | endInString | endInList | endInObject
  | expectedValue | expectedIdent | expectedColon
  | expectedCommaOrListEnd | expectedCommaOrObjectEnd
  | keyNotString | trailingComma | trailingCharacters
  | invalidNumber | numberOutOfRange
  | invalidEscape | controlCharacter | invalidCodePoint
  | loneSurrogate | unfinishedSurrogate
  | tooDeep
  deriving DecidableEq, Repr

def Cause.message : Cause → String
  | .endInValue => "EOF while parsing a value"
  | .endInString => "EOF while parsing a string"
  | .endInList => "EOF while parsing a list"
  | .endInObject => "EOF while parsing an object"
  | .expectedValue => "expected value"
  | .expectedIdent => "expected ident"
  | .expectedColon => "expected `:`"
  | .expectedCommaOrListEnd => "expected `,` or `]`"
  | .expectedCommaOrObjectEnd => "expected `,` or `\x7d`"
  | .keyNotString => "key must be a string"
  | .trailingComma => "trailing comma"
  | .trailingCharacters => "trailing characters"
  | .invalidNumber => "invalid number"
  | .numberOutOfRange => "number out of range"
  | .invalidEscape => "invalid escape"
  | .controlCharacter =>
    "control character (\\u0000-\\u001F) found while parsing a string"
  | .invalidCodePoint => "invalid unicode code point"
  | .loneSurrogate => "lone leading surrogate in hex escape"
  | .unfinishedSurrogate => "unexpected end of hex escape"
  | .tooDeep => "recursion limit exceeded"

/-- Where a text stops being JSON: the cause for a reader of values, the cause
for one that skips, and the octets from the value or mark that is wrong. -/
structure Break where
  strict : Cause
  skipped : Cause
  rest : List UInt8

def Break.same (cause : Cause) (rest : List UInt8) : Break :=
  ⟨cause, cause, rest⟩

/-- What a document was made of. A reader of a text stops at the first thing that
it cannot use and says what is wrong at that place; a reader of a value has the
whole of it before its eyes. -/
inductive Source
  | text
  | value
  deriving DecidableEq, Repr

/-- An array or object without a break ends with its bracket. A number or string
that is well formed may still be none that can be used, and then carries why. -/
inductive Document
  | null
  | bool (b : Bool)
  | number (value : Except Cause Number)
  | string (value : Except Cause String)
  | array (items : List Document) (stop : Option Break)
  | object (members : List (Except Cause String × Document)) (stop : Option Break)
  | broken (place : Break)

namespace Document

/-- A value as the document that its text reads as. -/
def ofJson : Json → Document
  | .null => .null
  | .bool b => .bool b
  | .number n => .number (.ok n)
  | .string s => .string (.ok s)
  | .array items => .array (ofItems items) none
  | .object members => .object (ofMembers members) none
where
  ofItems : List Json → List Document
    | [] => []
    | item :: rest => ofJson item :: ofItems rest
  ofMembers : List (String × Json) → List (Except Cause String × Document)
    | [] => []
    | (key, value) :: rest => (.ok key, ofJson value) :: ofMembers rest

mutual

/-- What a reader that skips this value meets. -/
def skip : Document → Except Cause Unit
  | .array items stop => do
    skipItems items
    match stop with
    | some b => .error b.skipped
    | none => .ok ()
  | .object members stop => do
    skipMembers members
    match stop with
    | some b => .error b.skipped
    | none => .ok ()
  | .broken b => .error b.skipped
  | _ => .ok ()

def skipItems : List Document → Except Cause Unit
  | [] => .ok ()
  | item :: rest => do
    skip item
    skipItems rest

def skipMembers : List (Except Cause String × Document) → Except Cause Unit
  | [] => .ok ()
  | (_, value) :: rest => do
    skip value
    skipMembers rest

end

end Document

end Telemetry.Json
