import Telemetry.Proofs.Codec

/-!
The binary form is the only one: whatever a reader takes is the form of the value that it
gives. A flag, a tag or a level out of range, octets that spell no text and a count with
too little behind it are refused, and everything else is read as it would be written, so
of two forms none is the start of the other. The law is stated for what a reader takes and
what it leaves, as the one in the other direction is, and goes through the same
descriptions.
-/

namespace Telemetry

namespace Binary

/-- Whatever the reader takes, it takes the form of what it gives, and that fits. -/
def Canonical {α : Type} (read : Reader α) (write : α → List UInt8) (Fits : α → Prop) : Prop :=
  ∀ octets value rest, read octets = .ok (value, rest) →
    octets = write value ++ rest ∧ Fits value

theorem canonical_word (count : Nat) :
    Canonical (readWord count) (writeWord count) fun n => n < 256 ^ count := by
  induction count with
  | zero =>
    intro octets n rest hread
    cases hread
    exact ⟨rfl, Nat.zero_lt_one⟩
  | succ count ih =>
    intro octets n rest hread
    cases octets with
    | nil => cases hread
    | cons octet octets =>
      obtain ⟨⟨high, after⟩, hhigh, hn⟩ := ok_of_bind_ok hread
      cases hn
      obtain ⟨rfl, hfits⟩ := ih octets high rest hhigh
      have hoctet := octet.toNat_lt
      have hlow : UInt8.ofNat (octet.toNat + 256 * high) = octet := by
        apply UInt8.toNat_inj.mp
        rw [UInt8.toNat_ofNat']
        omega
      have hdiv : (octet.toNat + 256 * high) / 256 = high := by omega
      refine ⟨?_, ?_⟩
      · rw [writeWord, hlow, hdiv]
        rfl
      · rw [Nat.pow_succ]
        omega

theorem canonical_int : Canonical readInt writeInt fun n =>
    -0x8000000000000000 ≤ n ∧ n < 0x8000000000000000 := by
  intro octets value rest hread
  obtain ⟨⟨n, after⟩, hword, hvalue⟩ := ok_of_bind_ok hread
  obtain ⟨rfl, rfl⟩ := Prod.mk.inj (Except.ok.inj hvalue)
  obtain ⟨rfl, hn⟩ := canonical_word 8 octets n after hword
  have hmod : Int.bmod n 0x10000000000000000 % 0x10000000000000000 = n % 0x10000000000000000 :=
    Int.bmod_emod
  have hback : (Int.bmod n 0x10000000000000000 % 0x10000000000000000).toNat = n := by omega
  have hlow := Int.le_bmod (x := n) (m := 0x10000000000000000) (by decide)
  have hhigh := Int.bmod_lt (x := n) (m := 0x10000000000000000) (by decide)
  exact ⟨by rw [writeInt, hback], by omega, by omega⟩

theorem canonical_text : Canonical readText writeText fun s =>
    (Utf8.encode s).length < 0x10000000000000000 := by
  intro octets s rest hread
  obtain ⟨⟨length, after⟩, hword, hbody⟩ := ok_of_bind_ok hread
  obtain ⟨rfl, hlength⟩ := canonical_word 8 octets length after hword
  dsimp only at hbody
  split at hbody
  · cases hbody
  next hlong =>
  cases htext : Utf8.decode (after.take length) with
  | error fault =>
    rw [htext] at hbody
    cases hbody
  | ok text =>
    rw [htext] at hbody
    cases hbody
    have hoctets := Utf8.encode_of_decode htext
    have htake : (after.take length).length = length := List.length_take_of_le (by omega)
    refine ⟨?_, ?_⟩
    · rw [writeText, hoctets, htake, List.append_assoc, List.take_append_drop]
    · show (Utf8.encode s).length < 256 ^ 8
      rw [hoctets, htake]
      exact hlength

theorem canonical_flag : Canonical readFlag writeFlag fun _ => True := by
  intro octets b rest hread
  obtain ⟨⟨octet, after⟩, hword, hflag⟩ := ok_of_bind_ok hread
  obtain ⟨rfl, _⟩ := canonical_word 1 octets octet after hword
  dsimp only at hflag
  split at hflag
  next hzero =>
    cases hflag
    exact ⟨by rw [hzero]; rfl, trivial⟩
  split at hflag
  next hone =>
    cases hflag
    exact ⟨by rw [hone]; rfl, trivial⟩
  · cases hflag

theorem index_of_ofIndex? {n : Nat} {level : Level} (hlevel : Level.ofIndex? n = some level) :
    level.index = n := by
  obtain ⟨hn, rfl⟩ := List.getElem?_eq_some_iff.mp hlevel
  match n with
  | 0 | 1 | 2 | 3 => rfl
  | n + 4 => exact absurd hn (by simp [Level.all])

theorem canonical_level : Canonical readLevel (fun level => writeWord 4 level.index)
    fun _ => True := by
  intro octets level rest hread
  obtain ⟨⟨index, after⟩, hword, hfound⟩ := ok_of_bind_ok hread
  obtain ⟨rfl, _⟩ := canonical_word 4 octets index after hword
  dsimp only at hfound
  cases hlevel : Level.ofIndex? index with
  | none =>
    rw [hlevel] at hfound
    cases hfound
  | some found =>
    rw [hlevel] at hfound
    cases hfound
    refine ⟨?_, trivial⟩
    show _ = writeWord 4 level.index ++ rest
    rw [index_of_ofIndex? hlevel]

section

variable {α : Type} {read : Reader α} {write : α → List UInt8} {Fits : α → Prop}

theorem canonical_optional (hitem : Canonical read write Fits) :
    Canonical (readOptional read) (writeOptional write) fun value => ∀ item ∈ value, Fits item := by
  intro octets value rest hread
  obtain ⟨⟨tag, after⟩, hword, htagged⟩ := ok_of_bind_ok hread
  obtain ⟨rfl, _⟩ := canonical_word 1 octets tag after hword
  dsimp only at htagged
  split at htagged
  next hzero =>
    cases htagged
    exact ⟨by rw [hzero]; rfl, fun _ hitem => by cases hitem⟩
  split at htagged
  next hone =>
    obtain ⟨⟨item, behind⟩, hinner, hvalue⟩ := ok_of_bind_ok htagged
    cases hvalue
    obtain ⟨rfl, hfits⟩ := hitem after item behind hinner
    refine ⟨by rw [hone]; rfl, ?_⟩
    rintro _ ⟨⟩
    exact hfits
  · cases htagged

theorem canonical_many (hitem : Canonical read write Fits) (count : Nat) :
    Canonical (readMany read count) (List.flatMap write) fun values =>
      values.length = count ∧ ∀ item ∈ values, Fits item := by
  induction count with
  | zero =>
    intro octets values rest hread
    cases hread
    exact ⟨rfl, rfl, nofun⟩
  | succ count ih =>
    intro octets values rest hread
    obtain ⟨⟨value, after⟩, hfirst, hothers⟩ := ok_of_bind_ok hread
    obtain ⟨⟨more, behind⟩, hmore, hvalues⟩ := ok_of_bind_ok hothers
    cases hvalues
    obtain ⟨rfl, hfits⟩ := hitem octets value after hfirst
    obtain ⟨rfl, hlength, hfit⟩ := ih after more rest hmore
    refine ⟨?_, by rw [List.length_cons, hlength], List.forall_mem_cons.mpr ⟨hfits, hfit⟩⟩
    rw [List.flatMap_cons, List.append_assoc]

theorem canonical_list (hitem : Canonical read write Fits) :
    Canonical (readList read) (writeList write) fun values =>
      values.length < 0x10000000000000000 ∧ ∀ item ∈ values, Fits item := by
  intro octets values rest hread
  obtain ⟨⟨count, after⟩, hword, hitems⟩ := ok_of_bind_ok hread
  obtain ⟨rfl, hcount⟩ := canonical_word 8 octets count after hword
  obtain ⟨rfl, rfl, hfits⟩ := canonical_many hitem count after values rest hitems
  exact ⟨by rw [writeList, List.append_assoc], hcount, hfits⟩

end

end Binary

open Binary

mutual

theorem Schema.canonical_binary : {α : Type} → (schema : Schema α) →
    Canonical schema.readBinary schema.writeBinary schema.Fits
  | _, .text => canonical_text
  | _, .flag => canonical_flag
  | _, .integer => canonical_int
  | _, .word => by
    intro octets w rest hread
    obtain ⟨⟨n, after⟩, hword, hread⟩ := ok_of_bind_ok hread
    cases hread
    obtain ⟨rfl, hn⟩ := canonical_word 4 octets n rest hword
    exact ⟨by rw [Schema.writeBinary, UInt32.toNat_ofNat_of_lt' hn], trivial⟩
  | _, .level => canonical_level
  | _, .optional item => canonical_optional item.canonical_binary
  | _, .list item => canonical_list item.canonical_binary
  | _, .record _ fields view make _ view_make => by
    intro octets value rest hread
    obtain ⟨⟨values, after⟩, hfields, hvalue⟩ := ok_of_bind_ok hread
    cases hvalue
    obtain ⟨rfl, hfits⟩ := fields.canonical_binary octets values rest hfields
    rw [Schema.writeBinary, Schema.Fits, view_make]
    exact ⟨rfl, hfits⟩

theorem Fields.canonical_binary : {β δ : Type} → (fields : Fields β δ) →
    Canonical fields.readBinary fields.writeBinary fields.Fits
  | _, _, .done => by
    intro octets value rest hread
    cases hread
    exact ⟨rfl, trivial⟩
  | _, _, .field _ shape _ fields => by
    intro octets value rest hread
    obtain ⟨⟨value, after⟩, hfirst, hothers⟩ := ok_of_bind_ok hread
    obtain ⟨⟨values, behind⟩, hmore, hvalue⟩ := ok_of_bind_ok hothers
    cases hvalue
    obtain ⟨rfl, hfits⟩ := shape.canonical_binary octets value after hfirst
    obtain ⟨rfl, hfit⟩ := fields.canonical_binary after values rest hmore
    exact ⟨by rw [Fields.writeBinary, List.append_assoc], hfits, hfit⟩

end

/-- A form that is cut short is no form. -/
theorem Schema.readBinary_start {α : Type} (schema : Schema α) {value : α}
    (hfits : schema.Fits value) {start : List UInt8} (hstart : start <+: schema.writeBinary value)
    (hshort : start ≠ schema.writeBinary value) : ∃ fault, schema.readBinary start = .error fault := by
  obtain ⟨missing, hwhole⟩ := hstart
  cases hread : schema.readBinary start with
  | error fault => exact ⟨fault, rfl⟩
  | ok taken =>
    obtain ⟨other, rest⟩ := taken
    obtain ⟨rfl, hother⟩ := schema.canonical_binary start other rest hread
    have hone := schema.takes_binary hfits []
    have htwo := schema.takes_binary hother (rest ++ missing)
    rw [List.append_nil, ← hwhole, List.append_assoc, htwo] at hone
    obtain ⟨_, hnothing⟩ := Prod.mk.inj (Except.ok.inj hone)
    rw [(List.append_eq_nil_iff.mp hnothing).2, List.append_nil] at hwhole
    exact absurd hwhole hshort

namespace Codec

variable {α : Type} {schema : Schema α}

/-- What is decoded is encoded by the octets that were used for it. -/
theorem used_of_readBinary {octets : List UInt8} {value : α}
    (hread : readBinary schema octets = .ok value) :
    schema.Fits value ∧ ∃ rest, schema.readBinary octets = .ok (value, rest) ∧
      octets = binary.write schema value ++ rest := by
  rw [readBinary] at hread
  cases htaken : schema.readBinary octets with
  | error fault =>
    rw [htaken] at hread
    cases hread
  | ok taken =>
    obtain ⟨given, rest⟩ := taken
    rw [htaken] at hread
    cases hread
    obtain ⟨hoctets, hfits⟩ := schema.canonical_binary octets value rest htaken
    exact ⟨hfits, rest, rfl, hoctets⟩

theorem readBinary_cutShort {value : α} (hfits : schema.Fits value) {start : List UInt8}
    (hstart : start <+: binary.write schema value) (hshort : start ≠ binary.write schema value) :
    ∃ reason, readBinary schema start = .error (.decode reason) := by
  obtain ⟨fault, hfault⟩ := schema.readBinary_start hfits hstart hshort
  exact ⟨fault.message, by rw [readBinary, hfault]⟩

/-- A call or an answer has one binary form. Octets from which one is decoded start with
its encoding, the rest being what was not used, and a body that ends before its encoding
does is refused as undecodable. -/
theorem one_binary_form :
    (∀ octets call, binary.decodeCall octets = .ok call →
      Call.schema.Fits call ∧ ∃ body rest, binary.encodeCall call = .ok body ∧
        Call.schema.readBinary octets = .ok (call, rest) ∧ octets = body ++ rest) ∧
    (∀ octets response, binary.decodeResponse octets = .ok response →
      Response.schema.Fits response ∧ ∃ body rest, binary.encodeResponse response = .ok body ∧
        Response.schema.readBinary octets = .ok (response, rest) ∧ octets = body ++ rest) ∧
    (∀ call body start, Call.schema.Fits call → binary.encodeCall call = .ok body →
      start <+: body → start ≠ body →
      ∃ reason, binary.decodeCall start = .error (.decode reason)) ∧
    ∀ response body start, Response.schema.Fits response →
      binary.encodeResponse response = .ok body → start <+: body → start ≠ body →
      ∃ reason, binary.decodeResponse start = .error (.decode reason) := by
  refine ⟨?_, ?_, ?_, ?_⟩
  · intro octets call hread
    obtain ⟨hfits, rest, htaken, hoctets⟩ := used_of_readBinary hread
    exact ⟨hfits, _, rest, congrArg Except.ok (binary.write_writtenSchema call), htaken, hoctets⟩
  · intro octets response hread
    obtain ⟨hfits, rest, htaken, hoctets⟩ := used_of_readBinary hread
    exact ⟨hfits, _, rest, rfl, htaken, hoctets⟩
  · intro call body start hfits hbody hstart hshort
    cases hbody
    rw [write_writtenSchema] at hstart hshort
    exact readBinary_cutShort hfits hstart hshort
  · intro response body start hfits hbody hstart hshort
    cases hbody
    exact readBinary_cutShort hfits hstart hshort

/-- The call and the answer come back although two octets follow each, and neither without
its last octet. -/
theorem one_binary_form_sample :
    ∃ callBody responseBody,
      binary.encodeCall Sample.call = .ok callBody ∧
      binary.encodeResponse Sample.response = .ok responseBody ∧
      binary.decodeCall (callBody ++ [7, 255]) = .ok Sample.call ∧
      binary.decodeResponse (responseBody ++ [7, 255]) = .ok Sample.response ∧
      (Call.schema.Fits Sample.call ∧ ∃ body rest, binary.encodeCall Sample.call = .ok body ∧
        Call.schema.readBinary (callBody ++ [7, 255]) = .ok (Sample.call, rest) ∧
        callBody ++ [7, 255] = body ++ rest) ∧
      (Response.schema.Fits Sample.response ∧
        ∃ body rest, binary.encodeResponse Sample.response = .ok body ∧
          Response.schema.readBinary (responseBody ++ [7, 255]) = .ok (Sample.response, rest) ∧
          responseBody ++ [7, 255] = body ++ rest) ∧
      callBody.dropLast ≠ callBody ∧
      (∃ reason, binary.decodeCall callBody.dropLast = .error (.decode reason)) ∧
      responseBody.dropLast ≠ responseBody ∧
      ∃ reason, binary.decodeResponse responseBody.dropLast = .error (.decode reason) := by
  have hcall : Call.schema.Fits Sample.call := by decide +kernel
  have hresponse : Response.schema.Fits Sample.response := by decide +kernel
  have hcallBody : binary.encodeCall Sample.call = .ok (binary.write Call.schema Sample.call) := rfl
  have hcallRead := readBinary_write hcall [7, 255]
  have hresponseRead := readBinary_write hresponse [7, 255]
  have hcallShort : (binary.write Call.schema Sample.call).dropLast ≠
      binary.write Call.schema Sample.call := by decide +kernel
  have hresponseShort : (binary.write Response.schema Sample.response).dropLast ≠
      binary.write Response.schema Sample.response := by decide +kernel
  exact ⟨_, _, hcallBody, rfl, hcallRead, hresponseRead,
    one_binary_form.1 _ _ hcallRead, one_binary_form.2.1 _ _ hresponseRead,
    hcallShort,
    one_binary_form.2.2.1 _ _ _ hcall hcallBody (List.dropLast_prefix _) hcallShort,
    hresponseShort,
    one_binary_form.2.2.2 _ _ _ hresponse rfl (List.dropLast_prefix _) hresponseShort⟩

end Codec

end Telemetry
