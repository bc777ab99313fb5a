import Telemetry.Schema
import Telemetry.Json.Mismatch

/-!
The text format: records as JSON objects whose members are written in declared
order. Reading takes members in any order, skips those it does not know, and
takes a list of the fields in place of an object.
-/

namespace Telemetry

open Json Json.Document

mutual

def Schema.writeJson : {α : Type} → Schema α → α → Json
  | _, .text, s => .string s
  | _, .flag, b => .bool b
  | _, .integer, n => .number (.int n)
  | _, .word, w => .number (.int w.toNat)
  | _, .level, level => .string level.code
  | _, .optional item, value =>
    match value with
    | none => .null
    | some value => item.writeJson value
  | _, .list item, values => .array (values.map item.writeJson)
  | _, .record _ fields view _ _ _, value => .object (fields.writeMembers (view value))

def Fields.writeMembers : {β δ : Type} → Fields β δ → β → List (String × Json)
  | _, _, .done, _ => []
  | _, _, .field name shape _ rest, (value, values) =>
    (name, shape.writeJson value) :: rest.writeMembers values

end

namespace Fields

def unread : {β δ : Type} → Fields β δ → δ
  | _, _, .done => ()
  | _, _, .field _ _ _ rest => (none, rest.unread)

/-- What an object leaves out is filled in, or missed: the first field missed in
declared order is named. -/
def complete : {β δ : Type} → Fields β δ → δ → Result β
  | _, _, .done, _ => .ok ()
  | _, _, .field name _ presence rest, (slot, slots) => do
    let value ← match slot, presence with
      | some value, _ => .ok value
      | none, .required => .error (.missingField name)
      | none, .omittable absent => .ok absent
      | none, .defaulted absent => .ok absent
    let values ← rest.complete slots
    return (value, values)

end Fields

def recordKind (name : String) (count : Nat) : String :=
  "struct " ++ name ++ " with " ++ toString count ++
    if count = 1 then " element" else " elements"

mutual

def Schema.readJson (source : Source) : {α : Type} → Schema α → Document → Result α
  | _, .text, document => document.asText
  | _, .flag, document => document.asBool
  | _, .integer, document => document.asInt "i64" (-0x8000000000000000) 0x7fffffffffffffff
  | _, .word, document => do
    let n ← document.asInt "u32" 0 0xffffffff
    return .ofNat n.toNat
  | _, .level, document => document.asVariant source Level.variants
  | _, .optional item, document => document.asOptional (item.readJson source)
  | _, .list item, document => document.asList (item.readJson source)
  | _, .record name fields _ make _ _, document => do
    let values ← match document with
      | .object members stop => do
        let slots ← walk (fields.readMember source) stop fields.unread members
        fields.complete slots
      | .array items stop =>
        fields.readItems source (fun length => .wrongLength length (recordKind name fields.count))
          stop 0 items
      | other => .error (other.mismatch ("struct " ++ name))
    return make values

/-- Takes one member of an object. A field that already has a value is refused
before the second one is looked at. -/
def Fields.readMember (source : Source) :
    {β δ : Type} → Fields β δ → δ → String → Document → Result δ
  | _, _, .done, slots, _, document => do
    document.pass
    return slots
  | _, _, .field name shape _ rest, (slot, slots), key, document =>
    if key = name then
      match slot with
      | some _ => .error (.duplicateField name)
      | none => do
        let value ← shape.readJson source document
        return (some value, slots)
    else do
      let slots ← rest.readMember source slots key document
      return (slot, slots)

/-- Takes the fields from a list, of which `position` are read already. -/
def Fields.readItems (source : Source) : {β δ : Type} → Fields β δ → (Nat → Mismatch) →
    Option Break → Nat → List Document → Result β
  | _, _, .done, _, stop, position, items => do
    closeList source position items stop
    return ()
  | _, _, .field _ shape presence rest, tooShort, stop, position, items =>
    match items with
    | item :: items => do
      let value ← shape.readJson source item
      let values ← rest.readItems source tooShort stop (position + 1) items
      return (value, values)
    | [] =>
      match stop with
      | some place => .error (.syntaxError place.strict)
      | none => do
        let value ← match presence with
          | .defaulted absent => .ok absent
          | _ => .error (tooShort position)
        let values ← rest.readItems source tooShort stop (position + 1) []
        return (value, values)

end

end Telemetry
