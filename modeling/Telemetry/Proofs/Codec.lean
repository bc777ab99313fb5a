import Telemetry.Codec
import Telemetry.Proofs.Json.Continued
import Telemetry.Proofs.Json.Presented

/-!
Calls and answers come back from either format. Each format is one law about all
descriptions, and the law of the text format is about all texts that present a value;
what is left is that the descriptions of calls and answers are clear, and that the fields
of a call are written as they are read, although writer and reader each have a list of
them.
-/

namespace Telemetry

open Json

namespace Codec

variable {α : Type} {schema : Schema α} {value : α}

theorem readBinary_write (hfits : schema.Fits value) (rest : List UInt8) :
    readBinary schema (binary.write schema value ++ rest) = .ok value := by
  have hread : schema.readBinary (schema.writeBinary value ++ rest) = .ok (value, rest) :=
    schema.takes_binary hfits rest
  rw [readBinary, write, hread]

theorem readText_eq_ok_iff {octets : List UInt8} :
    readText schema octets = .ok value ↔
      Json.readText octets .syntaxError (schema.readJson .text) = .ok value := by
  rw [readText]
  split
  next hread => rw [hread, Except.ok.injEq, Except.ok.injEq]
  next hread =>
    rw [hread]
    constructor
    · intro hvalue
      cases hvalue
    · intro hvalue
      cases hvalue

/-- Whatever presents a value is read as it, also with blanks around it. -/
theorem readText_presents {script : Script} (hclear : schema.isClear = true)
    (hfits : schema.Fits value) (hpresents : schema.Presents value script)
    (before after : Gap) :
    readText schema (before.octets ++ (script.octets ++ after.octets)) = .ok value := by
  have hread := schema.readJson_presents .text hclear hfits hpresents
  rw [readText_eq_ok_iff, Json.readText_script hread]

theorem readText_write (hclear : schema.isClear = true) (hfits : schema.Fits value) :
    readText schema (text.write schema value) = .ok value := by
  obtain ⟨script, hwrites, hpresents⟩ := schema.exists_presented hclear value
  have hread : readText schema ([] ++ (script.octets ++ [])) = .ok value :=
    readText_presents hclear hfits hpresents [] []
  rwa [List.nil_append, List.append_nil, hwrites] at hread

/-- What a codec writes it reads. -/
theorem read_write (codec : Codec) (hclear : schema.isClear = true)
    (hfits : schema.Fits value) : codec.read schema (codec.write schema value) = .ok value := by
  cases codec with
  | binary =>
    have hread := readBinary_write hfits []
    rwa [List.append_nil] at hread
  | text => exact readText_write hclear hfits

/-- The two lists of the fields of a call are one. -/
theorem write_writtenSchema (codec : Codec) (call : Call) :
    codec.write Call.writtenSchema call = codec.write Call.schema call := by
  cases codec with
  | binary => rfl
  | text => rfl

theorem isClear_call : Call.schema.isClear = true := by
  decide +kernel

theorem isClear_response : Response.schema.isClear = true := by
  decide +kernel

/-- Every call and every answer is encoded, and is decoded as it was; from a binary body
also if anything follows it. -/
theorem round_trip (codec : Codec) :
    (∀ call, Call.schema.Fits call → ∃ octets, codec.encodeCall call = .ok octets ∧
      codec.decodeCall octets = .ok call ∧
      (codec = .binary → ∀ rest, codec.decodeCall (octets ++ rest) = .ok call)) ∧
    ∀ response, Response.schema.Fits response →
      ∃ octets, codec.encodeResponse response = .ok octets ∧
        codec.decodeResponse octets = .ok response ∧
        (codec = .binary → ∀ rest, codec.decodeResponse (octets ++ rest) = .ok response) := by
  constructor
  · intro call hfits
    refine ⟨_, rfl, ?_⟩
    rw [write_writtenSchema]
    refine ⟨codec.read_write isClear_call hfits, ?_⟩
    rintro rfl rest
    exact readBinary_write hfits rest
  · intro response hfits
    refine ⟨_, rfl, codec.read_write isClear_response hfits, ?_⟩
    rintro rfl rest
    exact readBinary_write hfits rest

/-- Escapes of every kind, characters of one to four octets, and both ends of the
integers. -/
def Sample.call : Call where
  method := "\x00\x08\t\n\x0c\r\x1f\"\\/"
  seqId := 0xffffffff
  auth := ⟨"aé€𝄞"⟩
  report :=
    { origin := ⟨"", -0x8000000000000000, "\x7f"⟩
      oldestMicros := 0
      youngestMicros := 0x7fffffffffffffff
      logRecords :=
        [⟨-1, "", none, .fatal, true, "\n", some "[1]"⟩,
          ⟨10, "guid", some "span", .info, false, "", none⟩]
      spanRecords := [⟨"guid", "span", "work", -5, 120, [⟨"key", "\""⟩], [], false⟩]
      counters := [] }

def Sample.response : Response :=
  ⟨[⟨true⟩, ⟨false⟩], ["", "é\n"]⟩

/-- The text of this call has escapes, and its octets come back. -/
theorem round_trip_sample :
    Call.schema.Fits Sample.call ∧ Response.schema.Fits Sample.response ∧
    ∀ codec : Codec,
      (∃ octets, codec.encodeCall Sample.call = .ok octets ∧
        codec.decodeCall octets = .ok Sample.call ∧
        (codec = .binary → ∀ rest, codec.decodeCall (octets ++ rest) = .ok Sample.call)) ∧
      ∃ octets, codec.encodeResponse Sample.response = .ok octets ∧
        codec.decodeResponse octets = .ok Sample.response ∧
        (codec = .binary →
          ∀ rest, codec.decodeResponse (octets ++ rest) = .ok Sample.response) := by
  have hcall : Call.schema.Fits Sample.call := by decide +kernel
  have hresponse : Response.schema.Fits Sample.response := by decide +kernel
  exact ⟨hcall, hresponse, fun codec =>
    ⟨(round_trip codec).1 Sample.call hcall, (round_trip codec).2 Sample.response hresponse⟩⟩

end Codec

end Telemetry
