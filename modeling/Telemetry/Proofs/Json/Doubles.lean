import Telemetry.Json.Mismatch
import Telemetry.Proofs.Json.Figures
import Telemetry.Proofs.Number.Decimal
import Telemetry.Proofs.Seconds

/-!
Written numbers as doubles. A whole number of 64 bits and a number of few digits are read as
the nearest double. Every other number is read as a double that is close to it, which need
not be the nearest one, because more than its digits are rounded.
-/

namespace Telemetry.Json.Figure

variable (figure : Figure)

def fractionValues : List Nat :=
  (figure.fraction.map Digits.values).getD []

def exponent : Int :=
  (figure.power.map Power.value).getD 0

/-- All digits as one whole number. -/
def digits : Nat :=
  places (figure.whole.values ++ figure.fractionValues)

/-- Where the last digit stands. -/
def shift : Int :=
  figure.exponent - figure.fractionValues.length

/-- The number that is written, without its sign. -/
def size : ℚ :=
  figure.digits * 10 ^ figure.shift

/-- The number that is written. -/
def value : ℚ :=
  if figure.negative then -figure.size else figure.size

/-- A whole number that is kept as it is. -/
def Whole : Prop :=
  ∃ n, figure.int? = some n ∧ IsWord n

/-- Digits and a power of ten that doubles hold. -/
structure Few : Prop where
  digits : figure.digits < 2 ^ 53
  shift : figure.shift.natAbs ≤ 22
  exponent : figure.exponent.natAbs < 0x80000000

/-- Such a number is rounded once. -/
def Exact : Prop :=
  figure.Whole ∨ figure.Few

/-- The double that a written number stands for: the nearest one, if the number is rounded
once, and else the one that its leading digits and the power of ten make. -/
def Reads (x : Float) : Prop :=
  (figure.Exact → Double.Nearest x figure.value) ∧
    (¬ figure.Exact → Double.ofDigits? figure.negative figure.whole.values
      figure.fractionValues figure.exponent = some x)

theorem size_nonneg : 0 ≤ figure.size :=
  mul_nonneg (Nat.cast_nonneg _) (zpow_nonneg (by norm_num) _)

theorem abs_value : |figure.value| = figure.size := by
  unfold value
  split
  · rw [abs_neg, abs_of_nonneg figure.size_nonneg]
  · exact abs_of_nonneg figure.size_nonneg

theorem whole_lt : ∀ digit ∈ figure.whole.values, digit < 10 :=
  fun _ => Digits.lt_of_mem_values

theorem fraction_lt : ∀ digit ∈ figure.fractionValues, digit < 10 := by
  unfold fractionValues
  cases figure.fraction with
  | none => exact fun _ hdigit => absurd hdigit List.not_mem_nil
  | some digits => exact fun _ => Digits.lt_of_mem_values

/-- A sign before a double. -/
def signed (x : Float) : Float :=
  if figure.negative then -x else x

variable {figure}

theorem value?_signed {x : Float} {r : ℚ} (hvalue : Double.value? x = some r) :
    Double.value? (figure.signed x) = some (if figure.negative then -r else r) := by
  unfold signed
  split
  · exact (Double.value?_neg hvalue).1
  · exact hvalue

/-! ## What the reader makes of it -/

/-- A whole number that fits is its digits with its sign. -/
theorem value_of_int? {n : Int} (hint : figure.int? = some n) (hn : IsWord n) :
    n.natAbs < 2 ^ 64 ∧ figure.size = n.natAbs ∧ (n < 0 ↔ figure.negative = true) := by
  obtain ⟨hlow, hhigh⟩ := hn
  obtain ⟨negative, whole, leading, fraction, power⟩ := figure
  cases fraction with
  | some digits => cases hint
  | none =>
    cases power with
    | some power => cases hint
    | none =>
      have hsize : (Figure.mk negative whole leading none none).size = whole.number := by
        change ((places (whole.values ++ []) : Nat) : ℚ) * 10 ^ (0 : Int) = whole.number
        rw [List.append_nil, zpow_zero, mul_one]
        rfl
      rw [hsize]
      cases negative with
      | true =>
        have hint :
            (if whole.number = 0 then none else some (-(whole.number : Int))) = some n := hint
        split at hint
        next => cases hint
        next hzero =>
          cases hint
          exact ⟨by omega, by rw [Int.natAbs_neg, Int.natAbs_natCast], by simp; omega⟩
      | false =>
        have hint : some (whole.number : Int) = some n := hint
        cases hint
        exact ⟨by omega, by rw [Int.natAbs_natCast], by simp⟩

/-- Any other number is read as a double. -/
theorem value_float (hwhole : ¬ figure.Whole) : figure.numeral.value = figure.numeral.float := by
  obtain ⟨negative, whole, leading, fraction, power⟩ := figure
  cases fraction with
  | some digits => rfl
  | none =>
    cases power with
    | some power => rfl
    | none =>
      cases negative with
      | true =>
        change (if 0 < ofDigits whole.values ∧ ofDigits whole.values ≤ 0x8000000000000000 then
          Except.ok (Number.int (-ofDigits whole.values)) else _) = _
        refine if_neg fun hfits => hwhole ⟨-whole.number, ?_, ?_⟩
        all_goals rw [ofDigits_eq_places] at hfits
        · exact if_neg hfits.1.ne'
        · exact ⟨by unfold Digits.number; omega, by unfold Digits.number; omega⟩
      | false =>
        change (if ofDigits whole.values < 0x10000000000000000 then
          Except.ok (Number.int (ofDigits whole.values)) else _) = _
        refine if_neg fun hfits => hwhole ⟨whole.number, rfl, ?_⟩
        rw [ofDigits_eq_places] at hfits
        exact ⟨by omega, by unfold Digits.number; omega⟩

/-- A document of this number gives the double. -/
theorem asDouble_float {x : Float} (hwhole : ¬ figure.Whole)
    (hread : Double.ofDigits? figure.negative figure.whole.values figure.fractionValues
      figure.exponent = some x) :
    Document.asDouble (.number figure.numeral.value) = .ok x := by
  have hfloat : figure.numeral.float = .ok (.float x) := by
    unfold Numeral.float
    rw [show Double.ofDigits? figure.numeral.negative figure.numeral.whole
      (figure.numeral.fraction.getD []) (figure.numeral.exponent.getD 0) = some x from hread]
  rw [value_float hwhole, hfloat]
  rfl

/-- A number that is rounded once is read so. -/
theorem exists_rounded (hexact : figure.Exact) :
    ∃ y, Double.Rounded y figure.size ∧
      Document.asDouble (.number figure.numeral.value) = .ok (figure.signed y) := by
  by_cases hwhole : figure.Whole
  · obtain ⟨n, hint, hn⟩ := hwhole
    obtain ⟨hfits, hsize, hsign⟩ := value_of_int? hint hn
    refine ⟨(UInt64.ofNat n.natAbs).toFloat, ?_, ?_⟩
    · have hrounded := Double.rounded_toFloat (UInt64.ofNat n.natAbs)
      rwa [UInt64.toNat_ofNat_of_lt' hfits, ← hsize] at hrounded
    · rw [figure.value_numeral hint hn]
      change Except.ok (if n < 0 then _ else _) = _
      simp only [hsign]
      rfl
  · obtain ⟨hdigits, hshift, hexponent⟩ := hexact.resolve_left hwhole
    obtain ⟨y, hy, hrounded⟩ := Double.rounded_ofDigits? hexponent hdigits hshift
    refine ⟨y, hrounded, asDouble_float hwhole ?_⟩
    rw [Double.ofDigits?_sign, hy]
    rfl

/-- The reader gives the double that a number stands for, whichever zero it is. -/
theorem asDouble_of_reads {x : Float} {r : ℚ} (hreads : figure.Reads x)
    (hvalue : Double.value? x = some r) :
    ∃ y, Document.asDouble (.number figure.numeral.value) = .ok y ∧ Double.value? y = some r := by
  by_cases hexact : figure.Exact
  · obtain ⟨y, ⟨count, place, hrounds⟩, hy⟩ := exists_rounded hexact
    refine ⟨_, hy, ?_⟩
    have hnearest := hreads.1 hexact
    rw [← hvalue]
    unfold value at hnearest
    unfold signed
    split at hnearest
    next hsign =>
      rw [if_pos hsign]
      exact (hrounds.neg_value_unique hnearest).symm
    next hsign =>
      rw [if_neg hsign]
      exact (hrounds.value_unique hnearest).symm
  · exact ⟨x, asDouble_float (fun hwhole => hexact (Or.inl hwhole)) (hreads.2 hexact), hvalue⟩

/-! ## How close it is -/

theorem within_of_exact {y : Float} (hrounded : Double.Rounded y figure.size) :
    Double.Within y figure.size (1 / 2 ^ 50) (2 ^ (-900 : Int)) := by
  obtain ⟨r, hvalue, hr, hclose⟩ := hrounded.within figure.size_nonneg
  refine ⟨r, hvalue, hr, hclose.trans (add_le_add ?_ ?_)⟩
  · exact mul_le_mul_of_nonneg_left (by norm_num) figure.size_nonneg
  · exact zpow_le_zpow_right₀ one_le_two (by decide)

/-- A double that a number stands for is close to it. -/
theorem close_of_reads (hexponent : figure.exponent.natAbs < 0x80000000) {x : Float} {r : ℚ}
    (hreads : figure.Reads x) (hvalue : Double.value? x = some r) :
    |r - figure.value| ≤ |figure.value| / 2 ^ 50 + 2 ^ (-900 : Int) := by
  have hsigned : ∃ y, Double.Within y figure.size (1 / 2 ^ 50) (2 ^ (-900 : Int)) ∧
      Double.value? (figure.signed y) = some r := by
    by_cases hexact : figure.Exact
    · obtain ⟨y, hrounded, hy⟩ := exists_rounded hexact
      obtain ⟨z, hz, hvalue'⟩ := asDouble_of_reads hreads hvalue
      rw [hy] at hz
      cases hz
      exact ⟨y, within_of_exact hrounded, hvalue'⟩
    · have hread := hreads.2 hexact
      rw [Double.ofDigits?_sign] at hread
      obtain ⟨y, hy, rfl⟩ := Option.map_eq_some_iff.mp hread
      rcases Double.within_ofDigits? figure.whole_lt figure.fraction_lt hexponent with
        ⟨z, hz, hwithin⟩ | ⟨hnone, -⟩
      · rw [hy] at hz
        cases hz
        exact ⟨y, hwithin, hvalue⟩
      · rw [hy] at hnone
        cases hnone
  obtain ⟨y, ⟨q, hq, -, hclose⟩, hsame⟩ := hsigned
  rw [value?_signed hq, Option.some.injEq] at hsame
  rw [abs_value, ← hsame, div_eq_mul_one_div]
  refine le_trans (le_of_eq ?_) hclose
  unfold value
  split
  · rw [neg_sub_neg, abs_sub_comm]
  · rfl

/-! ## Which numbers are numbers of seconds -/

variable (hsign : figure.negative = false)

include hsign

theorem value_unsigned : figure.value = figure.size := by
  unfold value
  rw [if_neg (by simp [hsign])]

/-- A number that is rounded once is one, unless it is rounded up to two to the power of 64. -/
theorem exists_seconds_iff (hexact : figure.Exact) :
    (∃ seconds : Seconds, figure.Reads seconds.number) ↔ figure.value < 2 ^ 64 - 2 ^ 10 := by
  constructor
  · rintro ⟨seconds, hreads⟩
    refine ((hreads.1 hexact).lt_iff seconds.finite).mp ?_
    have hbelow := seconds.below
    norm_num
    exact hbelow
  · intro hmost
    obtain ⟨y, hrounded, -⟩ := exists_rounded hexact
    obtain ⟨r, hvalue, hnonneg, -⟩ := hrounded.within figure.size_nonneg
    obtain ⟨count, place, hrounds⟩ := hrounded
    have hnearest := hrounds.near
    rw [← value_unsigned hsign] at hnearest
    have hbelow := (hnearest.lt_iff hvalue).mpr hmost
    norm_num at hbelow
    exact ⟨⟨y, r, hvalue, hnonneg, hbelow⟩, fun _ => hnearest, fun hnot => absurd hexact hnot⟩

/-- So is every other number that is not as near to two to the power of 64. -/
theorem exists_seconds (hexponent : figure.exponent.natAbs < 0x80000000)
    (hmost : figure.value ≤ 2 ^ 64 - 2 ^ 14) :
    ∃ seconds : Seconds, figure.Reads seconds.number := by
  by_cases hexact : figure.Exact
  · exact (exists_seconds_iff hsign hexact).mpr (by linarith)
  · rw [value_unsigned hsign] at hmost
    rcases Double.within_ofDigits? figure.whole_lt figure.fraction_lt hexponent with
      ⟨y, hy, r, hvalue, hnonneg, hclose⟩ | ⟨-, hlarge⟩
    · refine ⟨⟨y, r, hvalue, hnonneg, ?_⟩, fun hyes => absurd hyes hexact, fun _ => hsign ▸ hy⟩
      have hhigh := (abs_le.mp hclose).2
      have htiny : (2 : ℚ) ^ (-900 : Int) ≤ 1 / 2 ^ 40 := by
        rw [one_div, ← zpow_natCast, ← zpow_neg]
        exact zpow_le_zpow_right₀ one_le_two (by decide)
      change r - figure.size ≤ figure.size * (1 / 2 ^ 50) + _ at hhigh
      generalize (2 : ℚ) ^ (-900 : Int) = tiny at hhigh htiny
      linarith
    · have hbits : (2 : ℚ) ^ 64 ≤ 2 ^ 999 := pow_le_pow_right₀ one_le_two (by decide)
      have hsize : (2 : ℚ) ^ 64 ≤ figure.size := hbits.trans hlarge
      linarith

omit hsign in
/-- What becomes of a written number of seconds. -/
structure Timed (figure : Figure) : Prop where
  /-- The double that it stands for is close to it. -/
  close : ∀ seconds : Seconds, figure.Reads seconds.number →
    |seconds.value - figure.value| ≤ |figure.value| / 2 ^ 50 + 2 ^ (-900 : Int)
  /-- Up to this bound it stands for a number of seconds. -/
  some : figure.negative = false → figure.value ≤ 2 ^ 64 - 2 ^ 14 →
    ∃ seconds : Seconds, figure.Reads seconds.number
  /-- If it is rounded once, it does so until it is rounded up to two to the power of 64. -/
  rounded : figure.negative = false → figure.Exact →
    ((∃ seconds : Seconds, figure.Reads seconds.number) ↔ figure.value < 2 ^ 64 - 2 ^ 10)

omit hsign in
theorem timed (hexponent : figure.exponent.natAbs < 0x80000000) : figure.Timed where
  close seconds hreads := close_of_reads hexponent hreads seconds.finite
  some hsign := exists_seconds hsign hexponent
  rounded hsign := exists_seconds_iff hsign

end Telemetry.Json.Figure
