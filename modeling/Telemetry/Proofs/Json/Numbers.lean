import Telemetry.Proofs.Json.Strings

/-!
How numbers are read. The reader takes digits as long as there are any, so what follows a
number has to stop it: no digit, and nothing that begins a fraction or an exponent. What
it takes it takes whatever follows, if it leaves anything. At the end are the digits of
whole numbers as they are written.
-/

namespace Telemetry.Json

open Utf8

/-! ## Parts of a number -/

/-- What this reader takes it takes whatever follows, if it leaves anything. -/
def Steady {α : Type} (scan : List UInt8 → Except Break (α × List UInt8)) : Prop :=
  ∀ {octets rest : List UInt8} {value : α}, scan octets = .ok (value, rest) →
    rest.length ≤ octets.length ∧
      (rest ≠ [] → ∀ later, scan (octets ++ later) = .ok (value, rest ++ later))

section

variable {octets rest : List UInt8} {digits : List Nat}

theorem scanDigits_eq_ok (hscan : scanDigits octets = .ok (digits, rest)) :
    octets.takeWhile isDigit ≠ [] ∧ digits = digitValues (octets.takeWhile isDigit) ∧
      rest = octets.dropWhile isDigit := by
  rw [scanDigits] at hscan
  split at hscan
  next => cases hscan
  next hsome =>
    cases hscan
    rw [List.isEmpty_iff] at hsome
    exact ⟨hsome, rfl, rfl⟩

theorem exists_digit_of_scanDigits (hscan : scanDigits octets = .ok (digits, rest)) :
    ∃ octet after, octets = octet :: after ∧ isDigit octet = true := by
  obtain ⟨hsome, _, _⟩ := scanDigits_eq_ok hscan
  cases octets with
  | nil => exact absurd rfl hsome
  | cons octet after =>
    refine ⟨octet, after, rfl, Decidable.byContradiction fun hdigit => ?_⟩
    exact hsome (List.takeWhile_cons_of_neg hdigit)

theorem scanExponent_minus {mark : UInt8} (hmark : mark = 101 ∨ mark = 69)
    (hscan : scanDigits octets = .ok (digits, rest)) :
    scanExponent (mark :: 45 :: octets) = .ok (some (-(ofDigits digits : Int)), rest) := by
  rw [scanExponent, if_pos hmark]
  dsimp only
  rw [hscan]
  rfl

theorem scanExponent_plus {mark : UInt8} (hmark : mark = 101 ∨ mark = 69)
    (hscan : scanDigits octets = .ok (digits, rest)) :
    scanExponent (mark :: 43 :: octets) = .ok (some (ofDigits digits : Int), rest) := by
  rw [scanExponent, if_pos hmark]
  dsimp only
  rw [hscan]
  rfl

theorem scanExponent_unsigned {mark : UInt8} (hmark : mark = 101 ∨ mark = 69)
    (hscan : scanDigits octets = .ok (digits, rest)) :
    scanExponent (mark :: octets) = .ok (some (ofDigits digits : Int), rest) := by
  obtain ⟨octet, after, rfl, hdigit⟩ := exists_digit_of_scanDigits hscan
  rw [scanExponent.eq_def]
  dsimp only
  rw [if_pos hmark]
  split
  next heq =>
    cases heq
    cases hdigit
  next heq =>
    cases heq
    cases hdigit
  next =>
    rw [hscan]
    rfl

end

theorem steady_scanDigits : Steady scanDigits := by
  intro octets rest digits hscan
  obtain ⟨hsome, rfl, rfl⟩ := scanDigits_eq_ok hscan
  refine ⟨(List.dropWhile_sublist isDigit).length_le, fun hrest later => ?_⟩
  have hstop : (octets.takeWhile isDigit).length ≠ octets.length := by
    have hparts :=
      congrArg List.length (List.takeWhile_append_dropWhile (p := isDigit) (l := octets))
    have hpos := List.length_pos_iff.mpr hrest
    rw [List.length_append] at hparts
    omega
  have hleft : ¬ (octets.dropWhile isDigit).isEmpty = true := by rwa [List.isEmpty_iff]
  rw [scanDigits, List.takeWhile_append, if_neg hstop, List.dropWhile_append, if_neg hleft]
  exact if_neg (by rwa [List.isEmpty_iff])

theorem steady_scanWhole : Steady scanWhole := by
  intro octets rest whole hscan
  obtain ⟨⟨digits, after⟩, hdigits, hwhole⟩ := ok_of_bind_ok hscan
  obtain ⟨hlength, happend⟩ := steady_scanDigits hdigits
  dsimp only at hwhole
  split at hwhole
  next => cases hwhole
  next hzero =>
    cases hwhole
    refine ⟨hlength, fun hrest later => ?_⟩
    rw [scanWhole, happend hrest later]
    exact if_neg hzero

theorem steady_scanFraction : Steady scanFraction := by
  intro octets rest fraction hscan
  unfold scanFraction at hscan
  split at hscan
  next after =>
    obtain ⟨⟨digits, after⟩, hdigits, hfraction⟩ := ok_of_bind_ok hscan
    cases hfraction
    obtain ⟨hlength, happend⟩ := steady_scanDigits hdigits
    refine ⟨Nat.le_succ_of_le hlength, fun hrest later => ?_⟩
    rw [List.cons_append, scanFraction, happend hrest later]
    rfl
  next hmark =>
    cases hscan
    refine ⟨Nat.le_refl _, fun hrest later => ?_⟩
    obtain ⟨octet, after, rfl⟩ := List.exists_cons_of_ne_nil hrest
    unfold scanFraction
    split
    next heq =>
      cases heq
      exact absurd rfl (hmark after)
    next => rfl

theorem steady_scanExponent : Steady scanExponent := by
  intro octets rest exponent hscan
  unfold scanExponent at hscan
  split at hscan
  next mark after =>
    split at hscan
    next hmark =>
      split at hscan
      all_goals
        obtain ⟨⟨digits, left⟩, hdigits, hexponent⟩ := ok_of_bind_ok hscan
        cases hexponent
        obtain ⟨hlength, happend⟩ := steady_scanDigits hdigits
      next after =>
        exact ⟨Nat.le_add_right_of_le (Nat.le_add_right_of_le hlength),
          fun hrest later => scanExponent_minus hmark (happend hrest later)⟩
      next after =>
        exact ⟨Nat.le_add_right_of_le (Nat.le_add_right_of_le hlength),
          fun hrest later => scanExponent_plus hmark (happend hrest later)⟩
      next =>
        exact ⟨Nat.le_add_right_of_le hlength,
          fun hrest later => scanExponent_unsigned hmark (happend hrest later)⟩
    next hmark =>
      cases hscan
      exact ⟨Nat.le_refl _, fun _ later => if_neg hmark⟩
  next =>
    cases hscan
    exact ⟨Nat.le_refl _, fun hrest => absurd rfl hrest⟩

/-- A number is its parts, one after another. -/
theorem scanNumber_eq_ok_iff {octets rest : List UInt8} {numeral : Numeral} :
    scanNumber octets = .ok (numeral, rest) ↔
    ∃ whole fraction exponent after more,
      scanWhole (if octets.head? = some 45 then octets.tail else octets) = .ok (whole, after) ∧
      scanFraction after = .ok (fraction, more) ∧ scanExponent more = .ok (exponent, rest) ∧
      numeral = ⟨octets.head? = some 45, whole, fraction, exponent⟩ := by
  constructor
  · intro hscan
    obtain ⟨⟨whole, after⟩, hwhole, hscan⟩ := ok_of_bind_ok hscan
    obtain ⟨⟨fraction, more⟩, hfraction, hscan⟩ := ok_of_bind_ok hscan
    obtain ⟨⟨exponent, left⟩, hexponent, hscan⟩ := ok_of_bind_ok hscan
    cases hscan
    exact ⟨whole, fraction, exponent, after, more, hwhole, hfraction, hexponent, rfl⟩
  · rintro ⟨whole, fraction, exponent, after, more, hwhole, hfraction, hexponent, rfl⟩
    rw [scanNumber]
    simp only [hwhole, hfraction, hexponent, bind, Except.bind]
    rfl

theorem steady_scanNumber : Steady scanNumber := by
  intro octets rest numeral hscan
  obtain ⟨whole, fraction, exponent, after, more, hwhole, hfraction, hexponent, rfl⟩ :=
    scanNumber_eq_ok_iff.mp hscan
  obtain ⟨hlength₁, happend₁⟩ := steady_scanWhole hwhole
  obtain ⟨hlength₂, happend₂⟩ := steady_scanFraction hfraction
  obtain ⟨hlength₃, happend₃⟩ := steady_scanExponent hexponent
  have hunsigned :
      (if octets.head? = some 45 then octets.tail else octets).length ≤ octets.length := by
    split
    next => exact octets.length_tail ▸ Nat.sub_le _ _
    next => exact Nat.le_refl _
  refine ⟨by omega, fun hrest later => ?_⟩
  have hpos := List.length_pos_iff.mpr hrest
  obtain ⟨octet, tail, rfl⟩ := List.exists_cons_of_ne_nil
    (List.length_pos_iff.mp (by omega : 0 < octets.length))
  refine scanNumber_eq_ok_iff.mpr ⟨whole, fraction, exponent, after ++ later, more ++ later, ?_,
    happend₂ (List.length_pos_iff.mp (by omega)) later, happend₃ hrest later, rfl⟩
  have hafter := happend₁ (List.length_pos_iff.mp (by omega)) later
  rw [List.cons_append, List.head?_cons, List.tail_cons]
  rw [List.head?_cons, List.tail_cons] at hafter
  split
  next hminus =>
    rw [if_pos hminus] at hafter
    exact hafter
  next hminus =>
    rw [if_neg hminus] at hafter
    exact hafter

/-- These octets carry no number on. -/
def Stops (rest : List UInt8) : Prop :=
  ∀ octet ∈ rest.head?, isDigit octet = false ∧ octet ≠ 46 ∧ octet ≠ 101 ∧ octet ≠ 69

/-- All digits up to the first octet that is none. -/
theorem scanDigits_append {octets rest : List UInt8} (hsome : octets ≠ [])
    (hall : ∀ octet ∈ octets, isDigit octet = true)
    (hrest : ∀ octet ∈ rest.head?, isDigit octet = false) :
    scanDigits (octets ++ rest) = .ok (digitValues octets, rest) := by
  have hnone : rest.takeWhile isDigit = [] ∧ rest.dropWhile isDigit = rest := by
    cases rest with
    | nil => exact ⟨rfl, rfl⟩
    | cons octet rest =>
      have hdigit := hrest octet rfl
      rw [List.takeWhile_cons_of_neg (by rw [hdigit]; decide),
        List.dropWhile_cons_of_neg (by rw [hdigit]; decide)]
      exact ⟨rfl, rfl⟩
  rw [scanDigits, List.takeWhile_append_of_pos hall, List.dropWhile_append_of_pos hall, hnone.1,
    hnone.2, List.append_nil]
  exact if_neg (by rwa [List.isEmpty_iff])

/-! ## Digits -/

def digitOctets (n : Nat) : List UInt8 :=
  encodeChars (Nat.toDigits 10 n)

theorem isDigit_toDigits {n : Nat} {c : Char} (hc : c ∈ Nat.toDigits 10 n) :
    48 ≤ c.toNat ∧ c.toNat ≤ 57 := by
  have hdigit := Nat.isDigit_of_mem_toDigits (by decide) (by decide) hc
  rw [Char.isDigit] at hdigit
  simp only [ge_iff_le, Bool.and_eq_true, decide_eq_true_eq] at hdigit
  exact hdigit

theorem digitOctets_eq (n : Nat) :
    digitOctets n = (Nat.toDigits 10 n).map fun c => .ofNat c.toNat :=
  encodeChars_ascii fun _ hc => Nat.lt_of_le_of_lt (isDigit_toDigits hc).2 (by decide)

theorem isDigit_digitOctets {n : Nat} {octet : UInt8} (hoctet : octet ∈ digitOctets n) :
    isDigit octet = true := by
  rw [digitOctets_eq] at hoctet
  obtain ⟨c, hc, rfl⟩ := List.mem_map.mp hoctet
  obtain ⟨hlow, hhigh⟩ := isDigit_toDigits hc
  simp only [isDigit, Bool.and_eq_true, decide_eq_true_eq, UInt8.le_iff_toNat_le]
  rw [toNat_ofNat (by omega)]
  exact ⟨hlow, hhigh⟩

theorem digitValues_digitOctets (n : Nat) :
    digitValues (digitOctets n) = (Nat.toDigits 10 n).map fun c => c.toNat - 48 := by
  rw [digitOctets_eq, digitValues, List.map_map]
  refine List.map_congr_left fun c hc => ?_
  have hhigh := (isDigit_toDigits hc).2
  exact congrArg (· - 48) (toNat_ofNat (by omega))

theorem ofDigits_digitOctets (n : Nat) : ofDigits (digitValues (digitOctets n)) = n := by
  rw [digitValues_digitOctets, ofDigits, List.foldl_map]
  have hread : Nat.ofDigitChars 10 (Nat.toDigits 10 n) 0 = n :=
    Nat.ofDigitChars_toDigits (by decide) (by decide)
  rw [Nat.ofDigitChars_eq_foldl] at hread
  simp only [Nat.mul_comm] at hread
  exact hread

/-- Only zero begins with a zero. -/
theorem head?_toDigits {n : Nat} (hn : 0 < n) : (Nat.toDigits 10 n).head? ≠ some '0' := by
  induction n using Nat.strongRecOn with
  | ind n ih =>
    by_cases hone : n < 10
    · rw [Nat.toDigits_of_lt_base hone]
      simp only [List.head?_cons, ne_eq, Option.some.injEq, Nat.digitChar_eq_zero]
      omega
    · have hhigh := ih (n / 10) (by omega) (by omega)
      obtain ⟨c, cs, hcs⟩ :=
        List.exists_cons_of_ne_nil (Nat.toDigits_ne_nil (n := n / 10) (b := 10))
      rw [Nat.toDigits_of_base_le (by decide) (by omega), hcs]
      rwa [hcs] at hhigh

theorem digitOctets_ne_nil (n : Nat) : digitOctets n ≠ [] := by
  rw [digitOctets_eq]
  exact fun hnil => Nat.toDigits_ne_nil (List.map_eq_nil_iff.mp hnil)

/-- Only zero is written with a leading zero. -/
theorem head?_digitValues {n : Nat} (hn : 0 < n) :
    (digitValues (digitOctets n)).head? ≠ some 0 := by
  intro hhead
  rw [digitValues_digitOctets, List.head?_map, Option.map_eq_some_iff] at hhead
  obtain ⟨c, hc, hvalue⟩ := hhead
  have hdigit := isDigit_toDigits (List.mem_of_head? hc)
  have hcharacter : c = '0' := Char.toNat_inj.mp (show c.toNat = 48 by omega)
  exact head?_toDigits hn (hcharacter ▸ hc)

/-! ## Numbers -/

theorem scanFraction_none {rest : List UInt8} (hrest : ∀ octet ∈ rest.head?, octet ≠ 46) :
    scanFraction rest = .ok (none, rest) := by
  unfold scanFraction
  split
  · exact absurd rfl (hrest 46 rfl)
  · rfl

theorem scanExponent_stops {rest : List UInt8} (hrest : Stops rest) :
    scanExponent rest = .ok (none, rest) := by
  cases rest with
  | nil => rfl
  | cons octet rest =>
    obtain ⟨_, _, hsmall, hlarge⟩ := hrest octet rfl
    unfold scanExponent
    exact if_neg (not_or.mpr ⟨hsmall, hlarge⟩)

/-- The octets of a whole number. -/
def intOctets (n : Int) : List UInt8 :=
  encodeChars (toString n).toList

theorem intOctets_eq (n : Int) :
    intOctets n =
      if 0 ≤ n then digitOctets n.toNat else 45 :: digitOctets (-n).toNat := by
  rw [intOctets, Int.toString_eq_repr, Int.repr_eq_if]
  split
  · rw [Nat.toList_repr]
    rfl
  · rw [String.toList_append, Nat.toList_repr]
    rfl

/-- A number between the least signed and the greatest unsigned one of 64 bits. -/
def IsWord (n : Int) : Prop :=
  -0x8000000000000000 ≤ n ∧ n < 0x10000000000000000

end Telemetry.Json
