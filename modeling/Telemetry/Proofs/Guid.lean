import Mathlib.Algebra.Group.Nat.Defs
import Telemetry.Proofs.Binary
import Telemetry.Proofs.Identity

/-!
What goes into a guid, and what it looks like. A number of fixed width and two texts, each
under its length, are digested. Texts may hold octets that look like a length, so that they
are kept apart is not a matter of where such octets stand: the lengths are read from the
front, each where the one before it says that it is, as a reader of the binary format does.
Only the last text ends with the octets themselves and needs no length.
-/

namespace Telemetry

theorem Utf8.encode_injective {s s' : String} (hsame : encode s = encode s') : s = s' := by
  have hread := decode_encode s
  rw [hsame, decode_encode] at hread
  exact (Except.ok.inj hread).symm

namespace Binary

/-- What a reader takes in front of any octets is told apart from what follows it. -/
theorem Takes.separates {α : Type} {read : Reader α} {octets octets' : List UInt8}
    {value value' : α} (htakes : Takes read octets value) (htakes' : Takes read octets' value')
    {rest rest' : List UInt8} (hsame : octets ++ rest = octets' ++ rest') :
    value = value' ∧ rest = rest' := by
  have hread : read (octets ++ rest) = .ok (value, rest) := htakes rest
  rw [hsame, htakes' rest'] at hread
  obtain ⟨hvalue, hrest⟩ := Prod.mk.inj (Except.ok.inj hread)
  exact ⟨hvalue.symm, hrest.symm⟩

theorem length_writeWord (count n : Nat) : (writeWord count n).length = count := by
  induction count generalizing n with
  | zero => rfl
  | succ count ih => simp [writeWord, ih]

/-- At the end of the octets a text is told by what stands behind its length, also if it is
too long for that length. -/
theorem writeText_injective {s s' : String} (hsame : writeText s = writeText s') : s = s' := by
  have hlength : (writeWord 8 (Utf8.encode s).length).length =
      (writeWord 8 (Utf8.encode s').length).length := by
    rw [length_writeWord, length_writeWord]
  exact Utf8.encode_injective (List.append_inj hsame hlength).2

end Binary

namespace Hex

/-- The sixteen digits, in lower case. -/
def digits : List Char := "0123456789abcdef".toList

theorem digits_getElem? {n : Nat} (hn : n < 16) : digits[n]? = some (digit n) := by
  have hall : ∀ m < 16, digits[m]? = some (digit m) := by decide
  exact hall n hn

/-- Each octet is written in two digits, and in the place of the octet. -/
theorem encode_digits (octets : List UInt8) (index : Nat) (octet : UInt8)
    (hoctet : octets[index]? = some octet) :
    (encode octets).toList[2 * index]? = digits[octet.toNat / 16]? ∧
      (encode octets).toList[2 * index + 1]? = digits[octet.toNat % 16]? := by
  have hrange : octet.toNat < 256 := octet.toNat_lt
  rw [digits_getElem? (by omega), digits_getElem? (by omega), encode, String.toList_ofList]
  induction octets generalizing index with
  | nil => cases hoctet
  | cons head rest ih =>
    rw [List.flatMap_cons, encodeOctet]
    cases index with
    | zero =>
      obtain rfl : head = octet := Option.some.inj hoctet
      exact ⟨rfl, rfl⟩
    | succ index => exact ih index hoctet

end Hex

namespace Identity

theorem littleEndian_eq_writeWord (count n : Nat) :
    littleEndian count n = Binary.writeWord count n := by
  induction count generalizing n with
  | zero => rfl
  | succ count ih => rw [littleEndian, Binary.writeWord, ih]

/-- What is digested has the layout of a number and two texts in the binary format. -/
theorem guidPreimage_eq (processId : UInt32) (accessToken groupName : String) :
    guidPreimage processId accessToken groupName =
      Binary.writeWord 4 processId.toNat ++
        (Binary.writeText accessToken ++ Binary.writeText groupName) := by
  simp only [guidPreimage, lengthAndText, Binary.writeText, littleEndian_eq_writeWord,
    List.append_assoc]

theorem guidPreimage_inj {processId processId' : UInt32}
    {accessToken accessToken' groupName groupName' : String}
    (hlength : (Utf8.encode accessToken).length < 0x10000000000000000)
    (hlength' : (Utf8.encode accessToken').length < 0x10000000000000000)
    (hsame : guidPreimage processId accessToken groupName =
      guidPreimage processId' accessToken' groupName') :
    processId = processId' ∧ accessToken = accessToken' ∧ groupName = groupName' := by
  rw [guidPreimage_eq, guidPreimage_eq] at hsame
  have hword (id : UInt32) : id.toNat < 256 ^ 4 := id.toNat_lt
  obtain ⟨hid, htexts⟩ :=
    (Binary.takes_word 4 (hword processId)).separates (Binary.takes_word 4 (hword processId')) hsame
  obtain ⟨htoken, hgroup⟩ :=
    (Binary.takes_text hlength).separates (Binary.takes_text hlength') htexts
  exact ⟨UInt32.toNat_inj.mp hid, htoken, Binary.writeText_injective hgroup⟩

/-- No two different identities share what is digested, as long as the length of the access
token fits the eight octets in front of it. The guid is the first half of the digest, each
octet in two hexadecimal digits of lower case. -/
theorem guid_inputs_separate (processId processId' : UInt32)
    (accessToken accessToken' groupName groupName' : String) :
    ((Utf8.encode accessToken).length < 0x10000000000000000 →
      (Utf8.encode accessToken').length < 0x10000000000000000 →
      (processId ≠ processId' ∨ accessToken ≠ accessToken' ∨ groupName ≠ groupName') →
      guidPreimage processId accessToken groupName ≠
        guidPreimage processId' accessToken' groupName') ∧
    let digest := Sha256.digest (guidPreimage processId accessToken groupName)
    let guid := deriveGuid processId accessToken groupName
    digest.length = 32 ∧ guid.length = 32 ∧
      ∀ index < 16, ∃ octet, digest[index]? = some octet ∧
        guid.toList[2 * index]? = Hex.digits[octet.toNat / 16]? ∧
        guid.toList[2 * index + 1]? = Hex.digits[octet.toNat % 16]? := by
  refine ⟨fun hlength hlength' hdiffer hsame => ?_, ?_⟩
  · obtain ⟨hid, htoken, hgroup⟩ := guidPreimage_inj hlength hlength' hsame
    rcases hdiffer with hdiffer | hdiffer | hdiffer
    · exact hdiffer hid
    · exact hdiffer htoken
    · exact hdiffer hgroup
  · intro digest guid
    have hdigest : digest.length = 32 := Sha256.length_digest _
    refine ⟨hdigest, length_deriveGuid processId accessToken groupName, fun index hindex => ?_⟩
    have hoctet : digest[index]? = some digest[index] := List.getElem?_eq_getElem (by omega)
    have hhalf : (digest.take 16)[index]? = some digest[index] := by
      rw [List.getElem?_take_of_lt hindex, hoctet]
    exact ⟨digest[index], hoctet, Hex.encode_digits (digest.take 16) index digest[index] hhalf⟩

/-- The first access token ends where the group begins; the second one goes on with octets
that look like the length of the group, and with the group. -/
theorem guid_inputs_separate_nested :
    guidPreimage 1 "a" "b" ≠ guidPreimage 1 "a\x01\x00\x00\x00\x00\x00\x00\x00b" "" ∧
      (deriveGuid 1 "a" "b").length = 32 := by
  obtain ⟨hseparate, _, hlength, _⟩ := guid_inputs_separate 1 1 "a"
    "a\x01\x00\x00\x00\x00\x00\x00\x00b" "b" ""
  exact ⟨hseparate (by decide) (by decide) (by decide), hlength⟩

example : deriveGuid 1234 "token" "group" = "574bdf0ff25464cd6ad33e2a6ad2e94c" := by
  decide +kernel

end Identity

end Telemetry
