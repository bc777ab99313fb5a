import Telemetry.Proofs.Except
import Telemetry.Text.Utf8

/-!
Text comes back from its octets. The reader takes one octet at a time, so the proof
follows it: a lead octet opens a character with the bits that it carries, each octet
after it adds six, and the last one closes it. The bounds on the second octet hold
because a character is no surrogate and is written in as few octets as it can be.

The same bounds make it the only way: octets that are read as a text are those that it
is written in.
-/

namespace Telemetry.Utf8

theorem toNat_ofNat {n : Nat} (hn : n < 0x100) : (UInt8.ofNat n).toNat = n :=
  UInt8.toNat_ofNat_of_lt' hn

/-! ## Octet by octet -/

theorem ofLead?_two {lead : Nat} (hlow : 0xC2 ≤ lead) (hhigh : lead < 0xE0) :
    Unfinished.ofLead? lead = some ⟨lead - 0xC0, 1, 1, 0x80, 0xBF⟩ := by
  rw [Unfinished.ofLead?, if_neg (by omega), if_pos hhigh]

theorem ofLead?_three {lead : Nat} (hlow : 0xE0 ≤ lead) (hhigh : lead < 0xF0) :
    Unfinished.ofLead? lead = some ⟨lead - 0xE0, 1, 2,
      if lead = 0xE0 then 0xA0 else 0x80, if lead = 0xED then 0x9F else 0xBF⟩ := by
  rw [Unfinished.ofLead?, if_neg (by omega), if_neg (by omega), if_pos hhigh]

theorem ofLead?_four {lead : Nat} (hlow : 0xF0 ≤ lead) (hhigh : lead < 0xF5) :
    Unfinished.ofLead? lead = some ⟨lead - 0xF0, 1, 3,
      if lead = 0xF0 then 0x90 else 0x80, if lead = 0xF4 then 0x8F else 0xBF⟩ := by
  rw [Unfinished.ofLead?, if_neg (by omega), if_neg (by omega), if_neg (by omega),
    if_pos hhigh]

section

variable {index octet code got owed low high : Nat} {rest : List UInt8}

theorem decodeFrom_lead {lead : Nat} {begun : Unfinished} (hlong : 0x80 ≤ lead)
    (hoctet : lead < 0x100) (hlead : Unfinished.ofLead? lead = some begun) :
    decodeFrom index none (.ofNat lead :: rest) = decodeFrom index (some begun) rest := by
  rw [decodeFrom, toNat_ofNat hoctet, if_neg (Nat.not_lt.mpr hlong), hlead]

theorem decodeFrom_inner (hoctet : octet < 0x100) (hlow : low ≤ octet) (hhigh : octet ≤ high) :
    decodeFrom index (some ⟨code, got, owed + 2, low, high⟩) (.ofNat octet :: rest) =
      decodeFrom index (some ⟨code * 0x40 + (octet - 0x80), got + 1, owed + 1, 0x80, 0xBF⟩)
        rest := by
  rw [decodeFrom, toNat_ofNat hoctet, if_pos ⟨hlow, hhigh⟩]
  exact if_neg (Nat.succ_succ_ne_one owed)

theorem decodeFrom_last {c : Char} {cs : List Char}
    (hrest : ∀ index, decodeFrom index none rest = .ok cs)
    (hoctet : octet < 0x100) (hlow : low ≤ octet) (hhigh : octet ≤ high)
    (hcode : code * 0x40 + (octet - 0x80) = c.toNat) :
    decodeFrom index (some ⟨code, got, 1, low, high⟩) (.ofNat octet :: rest) =
      .ok (c :: cs) := by
  rw [decodeFrom, toNat_ofNat hoctet, if_pos ⟨hlow, hhigh⟩]
  dsimp only
  rw [if_pos rfl, hrest, hcode, Char.ofNat_toNat]
  rfl

end

/-! ## Character by character -/

theorem decodeFrom_encodeChar {rest : List UInt8} {cs : List Char} (index : Nat) (c : Char)
    (hrest : ∀ index, decodeFrom index none rest = .ok cs) :
    decodeFrom index none (encodeChar c ++ rest) = .ok (c :: cs) := by
  have hvalid : c.toNat < 0xD800 ∨ 0xDFFF < c.toNat ∧ c.toNat < 0x110000 := c.valid
  unfold encodeChar
  dsimp only
  split
  next hone =>
    rw [List.cons_append, decodeFrom, toNat_ofNat (by omega), if_pos hone, List.nil_append,
      hrest, Char.ofNat_toNat]
    rfl
  split
  next hone htwo =>
    simp only [List.cons_append, List.nil_append]
    rw [decodeFrom_lead (by omega) (by omega) (ofLead?_two (by omega) (by omega))]
    exact decodeFrom_last hrest (by omega) (by omega) (by omega) (by omega)
  split
  next hone htwo hthree =>
    simp only [List.cons_append, List.nil_append]
    rw [decodeFrom_lead (by omega) (by omega) (ofLead?_three (by omega) (by omega)),
      decodeFrom_inner (by omega) (by split <;> omega) (by split <;> omega)]
    exact decodeFrom_last hrest (by omega) (by omega) (by omega) (by omega)
  next hone htwo hthree =>
    simp only [List.cons_append, List.nil_append]
    rw [decodeFrom_lead (by omega) (by omega) (ofLead?_four (by omega) (by omega)),
      decodeFrom_inner (by omega) (by split <;> omega) (by split <;> omega),
      decodeFrom_inner (by omega) (by omega) (by omega)]
    exact decodeFrom_last hrest (by omega) (by omega) (by omega) (by omega)

theorem decodeFrom_encodeChars (index : Nat) (cs : List Char) :
    decodeFrom index none (encodeChars cs) = .ok cs := by
  induction cs generalizing index with
  | nil => rfl
  | cons c cs ih =>
    rw [encodeChars, List.flatMap_cons]
    exact decodeFrom_encodeChar index c ih

/-- Every text is read back from its octets. -/
theorem decode_encode (s : String) : decode (encode s) = .ok s := by
  rw [decode, encode, decodeFrom_encodeChars]
  exact congrArg Except.ok String.ofList_toList

/-! ## What the octets are -/

/-- Below 128 a character is its own octet; above, no octet of it is below. -/
theorem encodeChar_ascii {c : Char} (hc : c.toNat < 0x80) :
    encodeChar c = [.ofNat c.toNat] := by
  rw [encodeChar]
  exact if_pos hc

theorem le_of_mem_encodeChar {c : Char} (hc : 0x80 ≤ c.toNat) {octet : UInt8}
    (hoctet : octet ∈ encodeChar c) : 0x80 ≤ octet.toNat := by
  have hvalid : c.toNat < 0xD800 ∨ 0xDFFF < c.toNat ∧ c.toNat < 0x110000 := c.valid
  unfold encodeChar at hoctet
  dsimp only at hoctet
  rw [if_neg (Nat.not_lt.mpr hc)] at hoctet
  split at hoctet
  · simp only [List.mem_cons, List.not_mem_nil, or_false] at hoctet
    rcases hoctet with rfl | rfl
    all_goals
      rw [toNat_ofNat (by omega)]
      omega
  split at hoctet
  · simp only [List.mem_cons, List.not_mem_nil, or_false] at hoctet
    rcases hoctet with rfl | rfl | rfl
    all_goals
      rw [toNat_ofNat (by omega)]
      omega
  · simp only [List.mem_cons, List.not_mem_nil, or_false] at hoctet
    rcases hoctet with rfl | rfl | rfl | rfl
    all_goals
      rw [toNat_ofNat (by omega)]
      omega

theorem encodeChars_ascii {cs : List Char} (hcs : ∀ c ∈ cs, c.toNat < 0x80) :
    encodeChars cs = cs.map fun c => .ofNat c.toNat := by
  induction cs with
  | nil => rfl
  | cons c cs ih =>
    obtain ⟨hfirst, hrest⟩ := List.forall_mem_cons.mp hcs
    rw [encodeChars, List.flatMap_cons, encodeChar_ascii hfirst]
    exact congrArg (_ :: ·) (ih hrest)

theorem encodeChars_cons (c : Char) (cs : List Char) :
    encodeChars (c :: cs) = encodeChar c ++ encodeChars cs :=
  List.flatMap_cons

theorem encodeChars_append (first second : List Char) :
    encodeChars (first ++ second) = encodeChars first ++ encodeChars second :=
  List.flatMap_append

theorem encode_append (first second : String) :
    encode (first ++ second) = encode first ++ encode second := by
  rw [encode, String.toList_append]
  exact List.flatMap_append

theorem encode_join (texts : List String) : encode (String.join texts) = texts.flatMap encode := by
  rw [encode, String.toList_join]
  exact List.flatMap_assoc

/-- An octet below 128 stands for itself wherever it occurs. -/
theorem mem_of_mem_encode {octet : UInt8} (hascii : octet.toNat < 0x80) {s : String}
    (hoctet : octet ∈ encode s) : Char.ofNat octet.toNat ∈ s.toList := by
  obtain ⟨c, hc, hmember⟩ := List.mem_flatMap.mp hoctet
  by_cases hone : c.toNat < 0x80
  · rw [encodeChar_ascii hone, List.mem_singleton] at hmember
    rw [hmember, toNat_ofNat (by omega), Char.ofNat_toNat]
    exact hc
  · have hlarge := le_of_mem_encodeChar (Nat.not_lt.mp hone) hmember
    omega

/-! ## The octets of what is read -/

theorem toNat_charOfNat {code : Nat} (hvalid : code.isValidChar) :
    (Char.ofNat code).toNat = code := by
  rw [Char.ofNat, dif_pos hvalid]
  rfl

theorem eq_of_toNat_eq (octet : UInt8) {n : Nat} (hn : n = octet.toNat) : .ofNat n = octet := by
  rw [hn, UInt8.ofNat_toNat]

/-- The lead octets, by the number of octets that they open. -/
theorem ofLead?_cases {lead : Nat} {begun : Unfinished}
    (hlead : Unfinished.ofLead? lead = some begun) :
    (0xC2 ≤ lead ∧ lead < 0xE0 ∧ begun = ⟨lead - 0xC0, 1, 1, 0x80, 0xBF⟩) ∨
    (0xE0 ≤ lead ∧ lead < 0xF0 ∧ begun = ⟨lead - 0xE0, 1, 2,
      if lead = 0xE0 then 0xA0 else 0x80, if lead = 0xED then 0x9F else 0xBF⟩) ∨
    (0xF0 ≤ lead ∧ lead < 0xF5 ∧ begun = ⟨lead - 0xF0, 1, 3,
      if lead = 0xF0 then 0x90 else 0x80, if lead = 0xF4 then 0x8F else 0xBF⟩) := by
  by_cases hnone : lead < 0xC2
  · rw [Unfinished.ofLead?, if_pos hnone] at hlead
    cases hlead
  by_cases htwo : lead < 0xE0
  · rw [ofLead?_two (by omega) htwo] at hlead
    exact Or.inl ⟨by omega, htwo, (Option.some.inj hlead).symm⟩
  by_cases hthree : lead < 0xF0
  · rw [ofLead?_three (by omega) hthree] at hlead
    exact Or.inr (Or.inl ⟨by omega, hthree, (Option.some.inj hlead).symm⟩)
  by_cases hfour : lead < 0xF5
  · rw [ofLead?_four (by omega) hfour] at hlead
    exact Or.inr (Or.inr ⟨by omega, hfour, (Option.some.inj hlead).symm⟩)
  · rw [Unfinished.ofLead?, if_neg hnone, if_neg htwo, if_neg hthree, if_neg hfour] at hlead
    cases hlead

section

variable {index code got owed low high : Nat} {octets : List UInt8} {cs : List Char}

theorem inner_of_decodeFrom
    (hread : decodeFrom index (some ⟨code, got, owed + 2, low, high⟩) octets = .ok cs) :
    ∃ octet rest, octets = octet :: rest ∧ low ≤ octet.toNat ∧ octet.toNat ≤ high ∧
      decodeFrom index
        (some ⟨code * 0x40 + (octet.toNat - 0x80), got + 1, owed + 1, 0x80, 0xBF⟩) rest =
        .ok cs := by
  cases octets with
  | nil => cases hread
  | cons octet rest =>
    by_cases hbounds : low ≤ octet.toNat ∧ octet.toNat ≤ high
    · rw [← UInt8.ofNat_toNat (x := octet),
        decodeFrom_inner octet.toNat_lt hbounds.1 hbounds.2] at hread
      exact ⟨octet, rest, rfl, hbounds.1, hbounds.2, hread⟩
    · rw [decodeFrom, if_neg hbounds] at hread
      cases hread

theorem last_of_decodeFrom
    (hread : decodeFrom index (some ⟨code, got, 1, low, high⟩) octets = .ok cs) :
    ∃ octet rest later, octets = octet :: rest ∧ low ≤ octet.toNat ∧ octet.toNat ≤ high ∧
      cs = Char.ofNat (code * 0x40 + (octet.toNat - 0x80)) :: later ∧
      decodeFrom (index + got + 1) none rest = .ok later := by
  cases octets with
  | nil => cases hread
  | cons octet rest =>
    by_cases hbounds : low ≤ octet.toNat ∧ octet.toNat ≤ high
    · rw [decodeFrom, if_pos hbounds] at hread
      dsimp only at hread
      rw [if_pos rfl] at hread
      obtain ⟨later, hlater, hcs⟩ := ok_of_bind_ok hread
      cases hcs
      exact ⟨octet, rest, later, rfl, hbounds.1, hbounds.2, rfl, hlater⟩
    · rw [decodeFrom, if_neg hbounds] at hread
      cases hread

end

/-! The octets of a character by its code. -/

section

variable {code : Nat}

theorem encodeChar_two (hlow : 0x80 ≤ code) (hhigh : code < 0x800) :
    encodeChar (.ofNat code) = [.ofNat (0xC0 + code / 0x40), .ofNat (0x80 + code % 0x40)] := by
  rw [encodeChar, toNat_charOfNat (Or.inl (by omega))]
  rw [if_neg (by omega), if_pos hhigh]

theorem encodeChar_three (hlow : 0x800 ≤ code) (hhigh : code < 0x10000)
    (hsurrogate : code < 0xD800 ∨ 0xDFFF < code) :
    encodeChar (.ofNat code) = [.ofNat (0xE0 + code / 0x1000),
      .ofNat (0x80 + code / 0x40 % 0x40), .ofNat (0x80 + code % 0x40)] := by
  have hvalid : code.isValidChar := hsurrogate.imp_right fun habove => ⟨habove, by omega⟩
  rw [encodeChar, toNat_charOfNat hvalid]
  rw [if_neg (by omega), if_neg (by omega), if_pos hhigh]

theorem encodeChar_four (hlow : 0x10000 ≤ code) (hhigh : code < 0x110000) :
    encodeChar (.ofNat code) = [.ofNat (0xF0 + code / 0x40000),
      .ofNat (0x80 + code / 0x1000 % 0x40), .ofNat (0x80 + code / 0x40 % 0x40),
      .ofNat (0x80 + code % 0x40)] := by
  rw [encodeChar, toNat_charOfNat (Or.inr ⟨by omega, hhigh⟩)]
  rw [if_neg (by omega), if_neg (by omega), if_neg (by omega)]

end

/-- What is read first is a character, and its octets stand in front. -/
theorem first_of_decodeFrom {index : Nat} {octet : UInt8} {octets : List UInt8} {cs : List Char}
    (hread : decodeFrom index none (octet :: octets) = .ok cs) :
    ∃ c later after next, cs = c :: later ∧ octet :: octets = encodeChar c ++ after ∧
      decodeFrom next none after = .ok later := by
  by_cases hone : octet.toNat < 0x80
  · rw [decodeFrom, if_pos hone] at hread
    obtain ⟨later, hlater, hcs⟩ := ok_of_bind_ok hread
    cases hcs
    have hcode : (Char.ofNat octet.toNat).toNat = octet.toNat :=
      toNat_charOfNat (Or.inl (by omega))
    refine ⟨_, later, octets, index + 1, rfl, ?_, hlater⟩
    rw [encodeChar_ascii (by omega), hcode, eq_of_toNat_eq octet rfl]
    rfl
  cases hlead : Unfinished.ofLead? octet.toNat with
  | none =>
    rw [decodeFrom, if_neg hone, hlead] at hread
    cases hread
  | some begun =>
    have hopen : decodeFrom index (some begun) octets = .ok cs := by
      rwa [decodeFrom, if_neg hone, hlead] at hread
    rcases ofLead?_cases hlead with
      ⟨hlow, hhigh, rfl⟩ | ⟨hlow, hhigh, rfl⟩ | ⟨hlow, hhigh, rfl⟩
    · obtain ⟨second, rest, later, rfl, hl₂, hh₂, hcs, hlater⟩ := last_of_decodeFrom hopen
      refine ⟨_, later, rest, _, hcs, ?_, hlater⟩
      rw [encodeChar_two (by omega) (by omega), eq_of_toNat_eq octet (by omega),
        eq_of_toNat_eq second (by omega)]
      rfl
    · obtain ⟨second, rest, rfl, hl₂, hh₂, hopen⟩ := inner_of_decodeFrom hopen
      obtain ⟨third, rest, later, rfl, hl₃, hh₃, hcs, hlater⟩ := last_of_decodeFrom hopen
      refine ⟨_, later, rest, _, hcs, ?_, hlater⟩
      have hsecond : 0x80 ≤ second.toNat ∧ second.toNat ≤ 0xBF ∧
          (octet.toNat = 0xE0 → 0xA0 ≤ second.toNat) ∧
          (octet.toNat = 0xED → second.toNat ≤ 0x9F) := by
        split at hl₂ <;> split at hh₂ <;> omega
      rw [encodeChar_three (by omega) (by omega) (by omega),
        eq_of_toNat_eq octet (by omega), eq_of_toNat_eq second (by omega),
        eq_of_toNat_eq third (by omega)]
      rfl
    · obtain ⟨second, rest, rfl, hl₂, hh₂, hopen⟩ := inner_of_decodeFrom hopen
      obtain ⟨third, rest, rfl, hl₃, hh₃, hopen⟩ := inner_of_decodeFrom hopen
      obtain ⟨fourth, rest, later, rfl, hl₄, hh₄, hcs, hlater⟩ := last_of_decodeFrom hopen
      refine ⟨_, later, rest, _, hcs, ?_, hlater⟩
      have hsecond : 0x80 ≤ second.toNat ∧ second.toNat ≤ 0xBF ∧
          (octet.toNat = 0xF0 → 0x90 ≤ second.toNat) ∧
          (octet.toNat = 0xF4 → second.toNat ≤ 0x8F) := by
        split at hl₂ <;> split at hh₂ <;> omega
      rw [encodeChar_four (by omega) (by omega),
        eq_of_toNat_eq octet (by omega), eq_of_toNat_eq second (by omega),
        eq_of_toNat_eq third (by omega), eq_of_toNat_eq fourth (by omega)]
      rfl

theorem encodeChar_ne_nil (c : Char) : encodeChar c ≠ [] := by
  unfold encodeChar
  dsimp only
  split
  · exact List.cons_ne_nil _ _
  split
  · exact List.cons_ne_nil _ _
  split
  · exact List.cons_ne_nil _ _
  · exact List.cons_ne_nil _ _

theorem encodeChars_of_decodeFrom {index : Nat} {octets : List UInt8} {cs : List Char}
    (hread : decodeFrom index none octets = .ok cs) : encodeChars cs = octets := by
  induction hlength : octets.length using Nat.strongRecOn generalizing index octets cs with
  | ind length ih =>
    cases octets with
    | nil =>
      cases hread
      rfl
    | cons octet rest =>
      obtain ⟨c, later, after, next, rfl, hoctets, hlater⟩ := first_of_decodeFrom hread
      have hpos := List.length_pos_iff.mpr (encodeChar_ne_nil c)
      have hshorter : after.length < length := by
        rw [← hlength, hoctets, List.length_append]
        omega
      rw [encodeChars, List.flatMap_cons, hoctets]
      exact congrArg (encodeChar c ++ ·) (ih after.length hshorter hlater rfl)

/-- Octets that are read as a text are its octets: no text can be written in two ways. -/
theorem encode_of_decode {octets : List UInt8} {s : String} (hread : decode octets = .ok s) :
    encode s = octets := by
  rw [decode] at hread
  cases hchars : decodeFrom 0 none octets with
  | error fault =>
    rw [hchars] at hread
    cases hread
  | ok cs =>
    rw [hchars] at hread
    cases hread
    rw [encode, String.toList_ofList]
    exact encodeChars_of_decodeFrom hchars

end Telemetry.Utf8
