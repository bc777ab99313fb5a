import Telemetry.Proofs.Codec

/-!
Which texts are decoded as a call or an answer. The text that is written is taken whole or
not at all: it ends with its brace, so a part of it that were read would go on with
something that is no blank, and a text that goes on so is refused. But every other text
that presents the same call is decoded as it, too.
-/

namespace Telemetry

open Json

def Schema.isRecord : {α : Type} → Schema α → Bool
  | _, .record .. => true
  | _, _ => false

theorem Schema.readJson_number {α : Type} (schema : Schema α) (hrecord : schema.isRecord = true)
    (number : Except Cause Number) (value : α) :
    schema.readJson .text (.number number) ≠ .ok value := by
  cases schema with
  | record => exact nofun
  | _ => cases hrecord

namespace Json

theorem exists_moreMemberChars (more : List (String × Json)) :
    ∃ front, moreMemberChars more = front ++ ['\x7d'] := by
  induction more with
  | nil => exact ⟨[], rfl⟩
  | cons member more ih =>
    obtain ⟨key, value⟩ := member
    obtain ⟨front, hfront⟩ := ih
    refine ⟨',' :: (quoted key ++ ':' :: (chars value ++ front)), ?_⟩
    rw [moreMemberChars, hfront]
    simp only [List.cons_append, List.append_assoc]

/-- The text of an object ends with its brace. -/
theorem exists_octets_object (members : List (String × Json)) :
    ∃ front, octets (.object members) = front ++ [125] := by
  have hchars : ∃ front, chars (.object members) = front ++ ['\x7d'] := by
    cases members with
    | nil => exact ⟨['\x7b'], rfl⟩
    | cons member more =>
      obtain ⟨key, value⟩ := member
      obtain ⟨front, hfront⟩ := exists_moreMemberChars more
      refine ⟨'\x7b' :: (quoted key ++ ':' :: (chars value ++ front)), ?_⟩
      rw [chars, memberChars, hfront]
      simp only [List.cons_append, List.append_assoc]
  obtain ⟨front, hfront⟩ := hchars
  refine ⟨Utf8.encodeChars front, ?_⟩
  rw [octets, hfront, Utf8.encodeChars_append]
  rfl

end Json

namespace Codec

/-! ## Parts of a body, and what follows it -/

section

variable {α : Type} {schema : Schema α} {value : α}

theorem exists_reason_of_not_ok {octets : List UInt8}
    (hread : ∀ value, readText schema octets ≠ .ok value) :
    ∃ reason, readText schema octets = .error (.decode reason) := by
  rw [readText] at hread ⊢
  split at hread
  next value _ => exact absurd rfl (hread value)
  next mismatch _ => exact ⟨mismatch.message, rfl⟩

/-- What follows a text body is ignored if it is blank, and refused if it is not. -/
theorem readText_append (hrecord : schema.isRecord = true) {octets : List UInt8}
    (hread : readText schema octets = .ok value) (later : List UInt8) :
    readText schema (octets ++ later) =
      if later.all isBlank then .ok value else .error (.decode "trailing characters") := by
  have happend := Json.readText_append (schema.readJson_number hrecord)
    (readText_eq_ok_iff.mp hread) later
  rw [readText, happend]
  split
  next hresult =>
    split at hresult
    next hblank => cases hresult; rw [if_pos hblank]
    next => cases hresult
  next hresult =>
    split at hresult
    next => cases hresult
    next hblank => cases hresult; rw [if_neg hblank]; rfl

/-- No text that is read ends before the last octet that is not blank. -/
theorem part_refused (hrecord : schema.isRecord = true) {front part : List UInt8} {last : UInt8}
    (hlast : isBlank last = false) (hread : readText schema (front ++ [last]) = .ok value)
    (hpart : part <+: front ++ [last]) (hproper : part ≠ front ++ [last]) :
    ∃ reason, readText schema part = .error (.decode reason) := by
  refine exists_reason_of_not_ok fun other hother => ?_
  obtain ⟨later, hlater⟩ := hpart
  have happend := readText_append hrecord hother later
  rw [hlater, hread] at happend
  split at happend
  next hblank =>
    have hsome : later ≠ [] := by
      rintro rfl
      rw [List.append_nil] at hlater
      exact hproper hlater
    -- What was cut off is blank, and its last octet is the last one of all.
    have hlater' : part ++ later.dropLast ++ [later.getLast hsome] = front ++ [last] := by
      rw [List.append_assoc, List.dropLast_concat_getLast hsome, hlater]
    have hsame : later.getLast hsome = last :=
      List.singleton_inj.mp (List.append_inj_right' hlater' rfl)
    have hfinal : isBlank (later.getLast hsome) = true :=
      List.all_eq_true.mp hblank _ (List.getLast_mem hsome)
    rw [hsame, hlast] at hfinal
    cases hfinal
  next => cases happend

end

/-- A body that is decoded as it is or not at all. -/
structure IsWhole {α : Type} (decode : List UInt8 → Except CodecError α) (octets : List UInt8)
    (value : α) : Prop where
  part : ∀ part, part <+: octets → part ≠ octets →
    ∃ reason, decode part = .error (.decode reason)
  blank : ∀ later, (∀ octet ∈ later, isBlank octet = true) → decode (octets ++ later) = .ok value
  trailing : ∀ later, (∃ octet ∈ later, isBlank octet = false) →
    decode (octets ++ later) = .error (.decode "trailing characters")

theorem isWhole_record {α : Type} {schema : Schema α} {value : α}
    (hrecord : schema.isRecord = true) (hclear : schema.isClear = true)
    (hfits : schema.Fits value) : IsWhole (readText schema) (text.write schema value) value := by
  have hread := readText_write hclear hfits
  obtain ⟨members, hobject⟩ : ∃ members, schema.writeJson value = .object members := by
    cases schema with
    | record name fields view => exact ⟨fields.writeMembers (view value), rfl⟩
    | _ => cases hrecord
  obtain ⟨front, hfront⟩ := exists_octets_object members
  have hoctets : text.write schema value = front ++ [125] := by rw [write, hobject, hfront]
  constructor
  · intro part hpart hproper
    rw [hoctets] at hread hpart hproper
    exact part_refused hrecord (by decide) hread hpart hproper
  · intro later hlater
    rw [readText_append hrecord hread, if_pos (List.all_eq_true.mpr hlater)]
  · rintro later ⟨octet, hoctet, hblank⟩
    rw [readText_append hrecord hread, if_neg]
    intro hall
    rw [List.all_eq_true.mp hall octet hoctet] at hblank
    cases hblank

/-- No part of a text body is decoded, and behind one there may be blanks and nothing
else. -/
theorem text_whole_or_not :
    (∀ call, Call.schema.Fits call → ∃ octets, text.encodeCall call = .ok octets ∧
      IsWhole text.decodeCall octets call) ∧
    ∀ response, Response.schema.Fits response →
      ∃ octets, text.encodeResponse response = .ok octets ∧
        IsWhole text.decodeResponse octets response := by
  constructor
  · intro call hfits
    refine ⟨_, rfl, ?_⟩
    rw [write_writtenSchema]
    exact isWhole_record rfl isClear_call hfits
  · intro response hfits
    exact ⟨_, rfl, isWhole_record rfl isClear_response hfits⟩

/-- The text of this call has escapes and characters of several octets to be cut through. -/
theorem text_whole_or_not_sample :
    Call.schema.Fits Sample.call ∧ Response.schema.Fits Sample.response ∧
    (∃ octets, text.encodeCall Sample.call = .ok octets ∧
      IsWhole text.decodeCall octets Sample.call) ∧
    ∃ octets, text.encodeResponse Sample.response = .ok octets ∧
      IsWhole text.decodeResponse octets Sample.response := by
  have hcall : Call.schema.Fits Sample.call := by decide +kernel
  have hresponse : Response.schema.Fits Sample.response := by decide +kernel
  exact ⟨hcall, hresponse, text_whole_or_not.1 Sample.call hcall,
    text_whole_or_not.2 Sample.response hresponse⟩

/-! ## Other texts of the same -/

namespace Sample

/-- Members with these blanks wherever there may be some. -/
def members (gap : Gap) : String × Script → List (String × Script) → Members
  | (name, value), [] => .last ⟨gap, Glyph.ofText name, gap⟩ gap value gap
  | (name, value), next :: more =>
    .next ⟨gap, Glyph.ofText name, gap⟩ gap value gap (members gap next more)

def object (gap : Gap) (first : String × Script) (more : List (String × Script)) : Script :=
  .object (members gap first more)

def string (s : String) : Script :=
  .string (Glyph.ofText s)

def whole (first : Fin 10) (more : List (Fin 10)) (hleading : first = 0 → more = []) : Script :=
  .number ⟨false, ⟨first, more⟩, hleading, none, none⟩

/-- A number past all doubles. -/
def huge : Script :=
  .number ⟨true, ⟨1, []⟩, fun _ => rfl, some ⟨0, [5]⟩, some ⟨true, .plus, ⟨9, [9, 9]⟩⟩⟩

theorem halves_clef :
    (0xD800 ≤ (CodeUnit.ofCode 0xD834 false).code ∧
      (CodeUnit.ofCode 0xD834 false).code ≤ 0xDBFF) ∧
    0xDC00 ≤ (CodeUnit.ofCode 0xDD1E true).code ∧
      (CodeUnit.ofCode 0xDD1E true).code ≤ 0xDFFF := by
  decide

/-- A clef in two halves. -/
def clef : Glyph :=
  .pair (.ofCode 0xD834 false) (.ofCode 0xDD1E true) halves_clef.1 halves_clef.2

def presentedCall : Call where
  method := "report"
  seqId := 120
  auth := ⟨"𝄞/A"⟩
  report :=
    { origin := ⟨"g", 3, "p"⟩
      oldestMicros := 0
      youngestMicros := 9876
      logRecords := [⟨9876, "g", none, .warn, true, "m", none⟩]
      spanRecords := []
      counters := [] }

/-- The fields in another order, among unknown ones that hold a number out of range, half
a character and a list; a span that is left out and a payload that is null. -/
def callScript : Script :=
  object [.feed, .tab]
    ("request", object []
      ("counters", .emptyArray [.space]) [("spans", huge), ("span_records", .emptyArray []),
        ("log_records", .array (.last [.space] (object [.carriage]
          ("payload_json", .null) [("level", string "W"), ("message", string "m"),
            ("error_flag", .bool true), ("", .null), ("runtime_guid", string "g"),
            ("timestamp_micros", whole 9 [8, 7, 6] (by decide))]) [])),
        ("youngest_micros", whole 9 [8, 7, 6] (by decide)),
        ("oldest_micros", whole 0 [] (by decide)),
        ("runtime", object []
          ("group_name", string "p")
            [("start_micros", whole 3 [] (by decide)), ("guid", string "g")])])
    [("new", .array (.next [] (.string [.coded (.ofCode 0xD800 true)]) [] (.last [] huge [.tab]))),
      ("auth", object [.space]
        ("access_token", .string
          [clef, .short .slash, .coded (.ofCode 0x41 false)]) []),
      ("seq_id", whole 1 [2, 0] (by decide)), ("new", .emptyObject []), ("method", string "report")]

def presentedResponse : Response :=
  ⟨[⟨false⟩, ⟨true⟩], []⟩

/-- No errors, and a command that does not say what to do. -/
def responseScript : Script :=
  object []
    ("commands", .array (.next [] (.emptyObject [.space]) [.space]
      (.last [] (object [] ("delay", huge) [("disable", .bool true)]) []))) []

end Sample

end Codec

end Telemetry
