import Telemetry.Proofs.Json.Numbers
import Telemetry.Proofs.Number.Digits

/-!
Numbers as they may stand in a text: digits with a sign, a fraction and a power of ten.
Only digits with a sign are a whole number, and minus zero is none.
-/

namespace Telemetry.Json

/-- The reader adds up digits by their places. -/
theorem ofDigits_eq_places (digits : List Nat) : ofDigits digits = places digits := by
  have hfrom : ∀ start, digits.foldl (fun n d => n * 10 + d) start =
      start * 10 ^ digits.length + places digits := by
    induction digits with
    | nil => simp [places]
    | cons digit rest ih =>
      intro start
      rw [List.foldl_cons, ih, places_cons, List.length_cons]
      ring
  have hzero := hfrom 0
  rwa [zero_mul, zero_add] at hzero

/-- One digit or more. -/
structure Digits where
  first : Fin 10
  more : List (Fin 10)

namespace Digits

def values (digits : Digits) : List Nat :=
  (digits.first :: digits.more).map Fin.val

/-- The number that the digits are by their places. -/
def number (digits : Digits) : Nat :=
  places digits.values

def octets (digits : Digits) : List UInt8 :=
  digits.values.map fun digit => .ofNat (48 + digit)

theorem lt_of_mem_values {digits : Digits} {digit : Nat} (hdigit : digit ∈ digits.values) :
    digit < 10 := by
  obtain ⟨d, _, rfl⟩ := List.mem_map.mp hdigit
  exact d.isLt

theorem isDigit_octets {digits : Digits} {octet : UInt8} (hoctet : octet ∈ digits.octets) :
    isDigit octet = true := by
  obtain ⟨digit, hdigit, rfl⟩ := List.mem_map.mp hoctet
  have hall : ∀ digit < 10, isDigit (.ofNat (48 + digit)) = true := by decide
  exact hall digit (lt_of_mem_values hdigit)

theorem digitValues_octets (digits : Digits) : digitValues digits.octets = digits.values := by
  rw [digitValues, octets, List.map_map]
  refine (List.map_congr_left fun digit hdigit => ?_).trans (List.map_id _)
  have hall : ∀ digit < 10, (UInt8.ofNat (48 + digit)).toNat - 48 = digit := by decide
  exact hall digit (lt_of_mem_values hdigit)

theorem scan_octets (digits : Digits) {rest : List UInt8}
    (hrest : ∀ octet ∈ rest.head?, isDigit octet = false) :
    scanDigits (digits.octets ++ rest) = .ok (digits.values, rest) := by
  rw [← digits.digitValues_octets]
  exact scanDigits_append (List.cons_ne_nil _ _) (fun _ hoctet => isDigit_octets hoctet) hrest

end Digits

/-! ## Powers of ten -/

inductive PowerSign
  | unsigned
  | plus
  | minus

structure Power where
  capital : Bool
  sign : PowerSign
  digits : Digits

namespace Power

def octets (power : Power) : List UInt8 :=
  (if power.capital then 69 else 101) ::
    match power.sign with
    | .unsigned => power.digits.octets
    | .plus => 43 :: power.digits.octets
    | .minus => 45 :: power.digits.octets

def value (power : Power) : Int :=
  match power.sign with
  | .unsigned | .plus => power.digits.number
  | .minus => -power.digits.number

theorem scan_octets (power : Power) {rest : List UInt8}
    (hrest : ∀ octet ∈ rest.head?, isDigit octet = false) :
    scanExponent (power.octets ++ rest) = .ok (some power.value, rest) := by
  have hmark : (if power.capital then 69 else 101 : UInt8) = 101 ∨
      (if power.capital then 69 else 101 : UInt8) = 69 := by
    split
    · exact .inr rfl
    · exact .inl rfl
  have hdigits := power.digits.scan_octets hrest
  rw [octets, value, Digits.number, ← ofDigits_eq_places]
  cases power.sign with
  | unsigned => exact scanExponent_unsigned hmark hdigits
  | plus => exact scanExponent_plus hmark hdigits
  | minus => exact scanExponent_minus hmark hdigits

end Power

/-! ## Figures -/

structure Figure where
  negative : Bool
  whole : Digits
  /-- A leading zero stands alone. -/
  leading : whole.first = 0 → whole.more = []
  fraction : Option Digits
  power : Option Power

namespace Figure

def signOctets (figure : Figure) : List UInt8 :=
  if figure.negative then [45] else []

def fractionOctets (figure : Figure) : List UInt8 :=
  match figure.fraction with
  | none => []
  | some digits => 46 :: digits.octets

def powerOctets (figure : Figure) : List UInt8 :=
  match figure.power with
  | none => []
  | some power => power.octets

def octets (figure : Figure) : List UInt8 :=
  figure.signOctets ++ (figure.whole.octets ++ (figure.fractionOctets ++ figure.powerOctets))

def numeral (figure : Figure) : Numeral :=
  ⟨figure.negative, figure.whole.values, figure.fraction.map Digits.values,
    figure.power.map Power.value⟩

/-- The whole number that is written, if it is one. -/
def int? (figure : Figure) : Option Int :=
  match figure.fraction, figure.power with
  | none, none =>
    if figure.negative then
      if figure.whole.number = 0 then none else some (-figure.whole.number)
    else some figure.whole.number
  | _, _ => none

end Figure

theorem scanWhole_octets {whole : Digits} (hleading : whole.first = 0 → whole.more = [])
    {rest : List UInt8} (hrest : ∀ octet ∈ rest.head?, isDigit octet = false) :
    scanWhole (whole.octets ++ rest) = .ok (whole.values, rest) := by
  have hzero : ¬ (1 < whole.values.length ∧ whole.values.head? = some 0) := by
    rintro ⟨hlength, hhead⟩
    have hfirst : whole.first = 0 := Fin.val_inj.mp (Option.some.inj hhead)
    rw [Digits.values, hleading hfirst] at hlength
    exact absurd hlength (by simp)
  rw [scanWhole, whole.scan_octets hrest]
  exact if_neg hzero

namespace Figure

/-- A sign is no digit, so it is seen from the first octet. -/
theorem unsigned_octets (figure : Figure) (rest : List UInt8) :
    (if (figure.octets ++ rest).head? = some 45 then (figure.octets ++ rest).tail
      else figure.octets ++ rest) =
        figure.whole.octets ++ (figure.fractionOctets ++ (figure.powerOctets ++ rest)) ∧
      decide ((figure.octets ++ rest).head? = some 45) = figure.negative := by
  have hsplit : figure.octets ++ rest = figure.signOctets ++
      (figure.whole.octets ++ (figure.fractionOctets ++ (figure.powerOctets ++ rest))) := by
    simp only [octets, List.append_assoc]
  have hdigit : (figure.whole.octets ++
      (figure.fractionOctets ++ (figure.powerOctets ++ rest))).head? ≠ some 45 := by
    intro hhead
    have hfirst : isDigit 45 = true := Digits.isDigit_octets (List.mem_of_head? hhead)
    exact absurd hfirst (by decide)
  rw [hsplit, signOctets]
  cases figure.negative with
  | true => exact ⟨if_pos rfl, rfl⟩
  | false => exact ⟨if_neg hdigit, decide_eq_false hdigit⟩

/-- A figure begins with its sign or a digit. -/
theorem opens (figure : Figure) :
    ∃ octet after, figure.octets = octet :: after ∧ (octet = 45 ∨ isDigit octet = true) := by
  rw [octets, signOctets]
  cases figure.negative with
  | true => exact ⟨45, _, rfl, .inl rfl⟩
  | false => exact ⟨_, _, rfl, .inr (Digits.isDigit_octets List.mem_cons_self)⟩

variable (figure : Figure) {rest : List UInt8} (hrest : Stops rest)

include hrest

theorem scanExponent_octets :
    scanExponent (figure.powerOctets ++ rest) = .ok (figure.power.map Power.value, rest) := by
  rw [powerOctets]
  cases figure.power with
  | none => exact scanExponent_stops hrest
  | some power => exact power.scan_octets fun octet hoctet => (hrest octet hoctet).1

/-- What is left after the fraction has no more digits and no point. -/
theorem head?_powerOctets : ∀ octet ∈ (figure.powerOctets ++ rest).head?,
    isDigit octet = false ∧ octet ≠ 46 := by
  rw [powerOctets]
  cases figure.power with
  | none => exact fun octet hoctet => ⟨(hrest octet hoctet).1, (hrest octet hoctet).2.1⟩
  | some power =>
    rintro octet ⟨⟩
    split
    · decide
    · decide

theorem scanFraction_octets :
    scanFraction (figure.fractionOctets ++ (figure.powerOctets ++ rest)) =
      .ok (figure.fraction.map Digits.values, figure.powerOctets ++ rest) := by
  have hhead := figure.head?_powerOctets hrest
  rw [fractionOctets]
  cases figure.fraction with
  | none => exact scanFraction_none fun octet hoctet => (hhead octet hoctet).2
  | some digits =>
    have hdigits := digits.scan_octets fun octet hoctet => (hhead octet hoctet).1
    rw [List.cons_append, scanFraction, hdigits]
    rfl

/-- A figure is read as its parts. -/
theorem scan_octets : scanNumber (figure.octets ++ rest) = .ok (figure.numeral, rest) := by
  have hafter : ∀ octet ∈ (figure.fractionOctets ++ (figure.powerOctets ++ rest)).head?,
      isDigit octet = false := by
    have hhead := figure.head?_powerOctets hrest
    rw [fractionOctets]
    cases figure.fraction with
    | none => exact fun octet hoctet => (hhead octet hoctet).1
    | some digits =>
      rintro octet ⟨⟩
      decide
  have hwhole := scanWhole_octets figure.leading hafter
  obtain ⟨hunsigned, hnegative⟩ := figure.unsigned_octets rest
  refine scanNumber_eq_ok_iff.mpr ⟨_, _, _, _, _, (congrArg scanWhole hunsigned).trans hwhole,
    figure.scanFraction_octets hrest, figure.scanExponent_octets hrest, ?_⟩
  rw [numeral, hnegative]

omit hrest in
/-- A whole number is read as that number, if it fits 64 bits. -/
theorem value_numeral {n : Int} (hint : figure.int? = some n) (hn : IsWord n) :
    figure.numeral.value = .ok (.int n) := by
  obtain ⟨hlow, hhigh⟩ := hn
  obtain ⟨negative, whole, leading, fraction, power⟩ := figure
  cases fraction with
  | some digits => cases hint
  | none =>
    cases power with
    | some power => cases hint
    | none =>
      cases negative with
      | true =>
        have hint :
            (if whole.number = 0 then none else some (-(whole.number : Int))) = some n := hint
        split at hint
        next => cases hint
        next hzero =>
          cases hint
          change (if 0 < ofDigits whole.values ∧ ofDigits whole.values ≤ 0x8000000000000000 then
            Except.ok (Number.int (-ofDigits whole.values)) else _) = _
          rw [ofDigits_eq_places]
          exact if_pos (show 0 < whole.number ∧ whole.number ≤ _ by omega)
      | false =>
        have hint : some (whole.number : Int) = some n := hint
        cases hint
        change (if ofDigits whole.values < 0x10000000000000000 then
          Except.ok (Number.int (ofDigits whole.values)) else _) = _
        rw [ofDigits_eq_places]
        exact if_pos (show whole.number < _ by omega)

end Figure

/-! ## Whole numbers as they are written -/

theorem exists_digits_of_isDigit {octets : List UInt8} (hsome : octets ≠ [])
    (hall : ∀ octet ∈ octets, isDigit octet = true) :
    ∃ digits : Digits, digits.octets = octets := by
  have hvalue : ∀ octet ∈ octets, octet.toNat - 48 < 10 ∧
      UInt8.ofNat (48 + (octet.toNat - 48)) = octet := by
    intro octet hoctet
    have hdigit := hall octet hoctet
    simp only [isDigit, Bool.and_eq_true, decide_eq_true_eq, UInt8.le_iff_toNat_le] at hdigit
    have hlow : 48 ≤ octet.toNat := hdigit.1
    have hhigh : octet.toNat ≤ 57 := hdigit.2
    refine ⟨by omega, ?_⟩
    rw [Nat.add_sub_cancel' hlow, UInt8.ofNat_toNat]
  have hvalues : ∃ values : List (Fin 10),
      (values.map Fin.val).map (fun digit => UInt8.ofNat (48 + digit)) = octets := by
    refine ⟨octets.map fun octet => Fin.ofNat 10 (octet.toNat - 48), ?_⟩
    rw [List.map_map, List.map_map]
    refine (List.map_congr_left fun octet hoctet => ?_).trans (List.map_id _)
    obtain ⟨hlt, hoctet⟩ := hvalue octet hoctet
    exact (congrArg (fun digit => UInt8.ofNat (48 + digit)) (Nat.mod_eq_of_lt hlt)).trans hoctet
  obtain ⟨values, rfl⟩ := hvalues
  cases values with
  | nil => exact absurd rfl hsome
  | cons first more => exact ⟨⟨first, more⟩, rfl⟩

/-- A natural number is written without a leading zero. -/
theorem exists_digits (n : Nat) : ∃ digits : Digits, digits.octets = digitOctets n ∧
    digits.number = n ∧ (digits.first = 0 → digits.more = []) := by
  obtain ⟨digits, hoctets⟩ :=
    exists_digits_of_isDigit (digitOctets_ne_nil n) fun _ hoctet => isDigit_digitOctets hoctet
  have hvalues : digits.values = digitValues (digitOctets n) := by
    rw [← hoctets, digits.digitValues_octets]
  refine ⟨digits, hoctets, ?_, fun hfirst => ?_⟩
  · rw [Digits.number, ← ofDigits_eq_places, hvalues, ofDigits_digitOctets]
  · rcases Nat.eq_zero_or_pos n with rfl | hpos
    · have hlength := congrArg List.length hvalues
      rw [Digits.values, List.length_map, List.length_cons] at hlength
      exact List.length_eq_zero_iff.mp (Nat.succ.inj hlength)
    · have hhead := head?_digitValues hpos
      rw [← hvalues] at hhead
      exact absurd (congrArg (fun digit : Fin 10 => some digit.val) hfirst) hhead

/-- Every whole number is written as a figure. -/
theorem exists_figure (n : Int) :
    ∃ figure : Figure, figure.octets = intOctets n ∧ figure.int? = some n := by
  rw [intOctets_eq]
  split
  next hpositive =>
    obtain ⟨digits, hoctets, hnumber, hleading⟩ := exists_digits n.toNat
    refine ⟨⟨false, digits, hleading, none, none⟩, ?_, ?_⟩
    · exact (List.append_nil _).trans hoctets
    · have hint : (digits.number : Int) = n := by omega
      exact congrArg some hint
  next hnegative =>
    obtain ⟨digits, hoctets, hnumber, hleading⟩ := exists_digits (-n).toNat
    refine ⟨⟨true, digits, hleading, none, none⟩, ?_, ?_⟩
    · exact congrArg (45 :: ·) ((List.append_nil _).trans hoctets)
    · have hzero : digits.number ≠ 0 := by omega
      have hint : -(digits.number : Int) = n := by omega
      exact (if_neg hzero).trans (congrArg some hint)

end Telemetry.Json
