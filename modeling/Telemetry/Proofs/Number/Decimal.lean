import Telemetry.Proofs.Number.Digits
import Telemetry.Proofs.Number.Scaling

/-!
Doubles that are read from decimal digits. As many leading digits as 64 bits hold are scaled
once by a power of ten, and of both only a double is left. So a number of few digits and a
small power is read to the nearest double, and every other one to within one part in 2 ^ 50.
-/

namespace Telemetry.Double

/-! ## The digits that are kept -/

/-- What is less than a unit apart is close beside many units. -/
theorem close_of_between {m : Nat} {unit u w : ℚ} (hunit : 0 < unit) (hm : 2 ^ 60 ≤ m)
    (hu : m * unit ≤ u) (hu' : u < (m + 1) * unit) (hw : m * unit ≤ w)
    (hw' : w < (m + 1) * unit) : |u - w| ≤ w / 2 ^ 60 := by
  have hmany : (2 : ℚ) ^ 60 * unit ≤ m * unit :=
    mul_le_mul_of_nonneg_right (by exact_mod_cast hm) hunit.le
  have hnear : |u - w| ≤ unit := by
    rw [add_mul, one_mul] at hu' hw'
    exact abs_le.mpr ⟨by linarith, by linarith⟩
  refine hnear.trans ?_
  rw [le_div_iff₀ (by norm_num)]
  linarith

section

variable {n m : Nat} {unit : ℚ} (hunit : 0 < unit)

include hunit

/-- So many places mean as much less of the unit. -/
theorem mul_le_of_places {count : Nat} (hle : n * 10 ^ count ≤ m) :
    n * (unit * 10 ^ count) ≤ m * unit := by
  have hcast : (n * 10 ^ count : ℚ) ≤ m := by exact_mod_cast hle
  have hmul := mul_le_mul_of_nonneg_right hcast hunit.le
  linarith

theorem mul_lt_of_places {count : Nat} (hlt : m < (n + 1) * 10 ^ count) :
    m * unit < (n + 1) * (unit * 10 ^ count) := by
  have hcast : (m : ℚ) < (n + 1) * 10 ^ count := by exact_mod_cast hlt
  have hmul := mul_lt_mul_of_pos_right hcast hunit
  linarith

end

theorem ten_zpow_mul (power : Int) (count : Nat) :
    (10 : ℚ) ^ power * 10 ^ count = 10 ^ (power + count) := by
  rw [← zpow_natCast, ← zpow_add₀ (by norm_num)]

section

variable {whole fraction : List Nat} {head significand taken dropped kept unread : Nat}
  (htail : Accumulated head fraction significand kept unread)

include htail

/-- If the whole digits are all kept, it is the unread ones that make the difference. -/
theorem close_of_unread (hhead : Accumulated 0 whole head taken 0) :
    |(significand * 10 ^ (((0 : Nat) : Int) - kept) : ℚ) -
        places (whole ++ fraction) * 10 ^ (-(fraction.length : Int))| ≤
      places (whole ++ fraction) * 10 ^ (-(fraction.length : Int)) / 2 ^ 60 := by
  have hequal : head = places whole := by
    have hlow := hhead.low
    have hhigh := hhead.high
    simp only [zero_mul, zero_add, pow_zero, mul_one] at hlow hhigh
    omega
  have hplaces := places_append whole fraction
  have hlength := htail.length
  have hten : ∀ power : Int, (0 : ℚ) < 10 ^ power := zpow_pos (by norm_num)
  rw [← hequal] at hplaces
  have hlow := mul_le_of_places (hten (-fraction.length)) htail.low
  have hhigh := mul_lt_of_places (hten (-fraction.length)) htail.high
  rw [← hplaces, ten_zpow_mul] at hlow hhigh
  rw [show (((0 : Nat) : Int) - kept) = -fraction.length + unread by omega]
  rcases htail.full with rfl | hmany
  · have hsame : places (whole ++ fraction) = significand := by
      have hle := htail.low
      have hlt := htail.high
      rw [pow_zero, mul_one, ← hplaces] at hle hlt
      omega
    rw [hsame, Nat.cast_zero, add_zero, sub_self, abs_zero]
    exact div_nonneg (mul_nonneg significand.cast_nonneg (hten _).le) (by norm_num)
  · exact close_of_between (hten _) hmany le_rfl
      (mul_lt_mul_of_pos_right (lt_add_one _) (hten _)) hlow hhigh

/-- Digits behind a dropped one change the number by less than the last one kept. -/
theorem close_of_dropped (hhead : Accumulated 0 whole head taken dropped) (hfull : 2 ^ 60 ≤ head)
    (hfraction : ∀ digit ∈ fraction, digit < 10) :
    |(significand * 10 ^ ((dropped : Int) - kept) : ℚ) -
        places (whole ++ fraction) * 10 ^ (-(fraction.length : Int))| ≤
      places (whole ++ fraction) * 10 ^ (-(fraction.length : Int)) / 2 ^ 60 := by
  have hplaces := places_append whole fraction
  have hle := hhead.low
  have hlt := hhead.high
  rw [zero_mul, zero_add] at hle hlt
  have hfrom : head * 10 ^ (dropped + fraction.length) ≤ places (whole ++ fraction) := by
    rw [hplaces, pow_add, ← mul_assoc]
    exact Nat.le_add_right_of_le (Nat.mul_le_mul_right _ hle)
  have hto : places (whole ++ fraction) < (head + 1) * 10 ^ (dropped + fraction.length) :=
    calc places (whole ++ fraction)
        < places whole * 10 ^ fraction.length + 10 ^ fraction.length := by
          rw [hplaces]
          exact Nat.add_lt_add_left (places_lt hfraction) _
      _ = (places whole + 1) * 10 ^ fraction.length := (Nat.succ_mul _ _).symm
      _ ≤ (head + 1) * 10 ^ dropped * 10 ^ fraction.length := Nat.mul_le_mul_right _ hlt
      _ = (head + 1) * 10 ^ (dropped + fraction.length) := by rw [pow_add, mul_assoc]
  have hten : ∀ power : Int, (0 : ℚ) < 10 ^ power := zpow_pos (by norm_num)
  have hlow := mul_le_of_places (hten (dropped - kept)) htail.least
  have hhigh := mul_lt_of_places (hten (dropped - kept)) htail.most
  rw [ten_zpow_mul, sub_add_cancel] at hlow hhigh
  have hlow' := mul_le_of_places (hten (-fraction.length)) hfrom
  have hhigh' := mul_lt_of_places (hten (-fraction.length)) hto
  have hshift : (-fraction.length + (dropped + fraction.length : Nat) : Int) = dropped := by omega
  rw [ten_zpow_mul, hshift] at hlow' hhigh'
  exact close_of_between (hten dropped) hfull hlow hhigh hlow' hhigh'

end

/-- The digits that are kept, with the power of ten that they stand for. -/
theorem exists_significand {whole fraction : List Nat} (hwhole : ∀ digit ∈ whole, digit < 10)
    (hfraction : ∀ digit ∈ fraction, digit < 10) :
    ∃ significand dropped kept unread,
      accumulate 0 whole = ((accumulate 0 whole).1, dropped) ∧
      accumulate (accumulate 0 whole).1 fraction = (significand, unread) ∧
      kept + unread = fraction.length ∧ significand < 2 ^ 64 ∧
      |(significand * 10 ^ ((dropped : Int) - kept) : ℚ) -
          places (whole ++ fraction) * 10 ^ (-(fraction.length : Int))| ≤
        places (whole ++ fraction) * 10 ^ (-(fraction.length : Int)) / 2 ^ 60 := by
  obtain ⟨taken, hhead⟩ := accumulated hwhole 0
  obtain ⟨kept, htail⟩ := accumulated hfraction (accumulate 0 whole).1
  refine ⟨_, _, kept, _, rfl, rfl, htail.length, htail.fits (hhead.fits (by decide)), ?_⟩
  rcases hhead.full with hnone | hfull
  · rw [hnone] at hhead ⊢
    exact close_of_unread htail hhead
  · exact close_of_dropped htail hhead hfull hfraction

/-! ## Whole numbers as doubles -/

/-- A whole number of at most 53 bits is not changed. -/
theorem RoundsTo.eq_of_lt {x : Float} {n count : Nat} {place : Int}
    (hrounds : RoundsTo x n count place) (hn : n < 2 ^ 53) : value? x = some (n : ℚ) := by
  have hpos : (0 : ℚ) < 2 ^ place := zpow_pos two_pos _
  have hplace : place ≤ 0 := by
    rcases hrounds.full with rfl | hmany
    · decide
    · by_contra hlarge
      have hone : (2 : ℚ) ^ (1 : Int) ≤ 2 ^ place := zpow_le_zpow_right₀ one_le_two (by omega)
      have hsmall : (n : ℚ) < 2 ^ 53 := by exact_mod_cast hn
      rw [le_div_iff₀ hpos] at hmany
      rw [zpow_one] at hone
      linarith
  obtain ⟨shift, hshift⟩ := Int.eq_ofNat_of_zero_le (neg_nonneg.mpr hplace)
  obtain rfl : place = -shift := by omega
  have hwhole : (n : ℚ) / 2 ^ (-shift : Int) = (n * 2 ^ shift : Nat) := by
    rw [zpow_neg, zpow_natCast, div_inv_eq_mul]
    push_cast
    rfl
  have hnearest := hrounds.nearest
  rw [hwhole] at hnearest
  have hself : NearestWhole (n * 2 ^ shift) ((n * 2 ^ shift : Nat) : ℚ) :=
    NearestWhole.of_lt (by norm_num)
  rw [hrounds.value, hself.unique hnearest, ← hwhole, div_mul_cancel₀ _ hpos.ne']

/-- What is left of a whole number of 64 bits in a double. -/
theorem exists_toFloat {n : Nat} (hn : n < 2 ^ 64) :
    ∃ a, value? (UInt64.ofNat n).toFloat = some a ∧ |a - n| ≤ n / 2 ^ 52 ∧
      (n < 2 ^ 53 → a = n) := by
  obtain ⟨count, place, hrounds⟩ := rounded_toFloat (UInt64.ofNat n)
  rw [UInt64.toNat_ofNat_of_lt' hn] at hrounds
  rcases lt_or_ge n (2 ^ 53) with hsmall | hlarge
  · refine ⟨n, hrounds.eq_of_lt hsmall, ?_, fun _ => rfl⟩
    rw [sub_self, abs_zero]
    exact div_nonneg n.cast_nonneg (by norm_num)
  · refine ⟨_, hrounds.value, (hrounds.close n.cast_nonneg).trans ?_, fun hlt => by omega⟩
    have htiny : (2 : ℚ) ^ (-1075 : Int) ≤ 2 ^ (0 : Int) :=
      zpow_le_zpow_right₀ one_le_two (by decide)
    have hmany : (2 : ℚ) ^ 53 ≤ n := by exact_mod_cast hlarge
    rw [zpow_zero] at htiny
    generalize (2 : ℚ) ^ (-1075 : Int) = tiny at htiny ⊢
    linarith

/-! ## What is read -/

section

variable {whole fraction : List Nat} (hwhole : ∀ digit ∈ whole, digit < 10)
  (hfraction : ∀ digit ∈ fraction, digit < 10) {exponent : Int}
  (hexponent : exponent.natAbs < 0x80000000)

include hwhole hfraction hexponent

/-- The double that is read is close to the number that is written, or there is no double as
large. -/
theorem within_ofDigits? :
    (∃ y, ofDigits? false whole fraction exponent = some y ∧
      Within y (places (whole ++ fraction) * 10 ^ (exponent - fraction.length)) (1 / 2 ^ 50)
        (2 ^ (-900 : Int))) ∨
    ofDigits? false whole fraction exponent = none ∧
      2 ^ 999 ≤ (places (whole ++ fraction) * 10 ^ (exponent - fraction.length) : ℚ) := by
  obtain ⟨significand, dropped, kept, unread, hhead, htail, hlength, hbits, hdigits⟩ :=
    exists_significand hwhole hfraction
  obtain ⟨a, ha, hnear, hexact⟩ := exists_toFloat hbits
  have hread : ofDigits? false whole fraction exponent =
      scale? (UInt64.ofNat significand).toFloat (dropped - kept + exponent) := by
    unfold ofDigits?
    rw [hhead]
    dsimp only
    rw [htail, if_neg (not_le.mpr hexponent), show fraction.length - unread = kept by omega]
    exact Option.map_id'
  have hten : ∀ power : Int, (0 : ℚ) < 10 ^ power := zpow_pos (by norm_num)
  have hsmall : (significand : ℚ) < 2 ^ 64 := by exact_mod_cast hbits
  have hnonneg : (0 : ℚ) ≤ significand := significand.cast_nonneg
  obtain ⟨hlow, hhigh⟩ := abs_le.mp hnear
  have hone : a = 0 ∨ 1 ≤ a := by
    rcases lt_or_ge significand (2 ^ 53) with hfew | hmany
    · rw [hexact hfew]
      exact_mod_cast (Nat.eq_zero_or_pos significand).imp_right Nat.succ_le_of_lt
    · have hcast : (2 : ℚ) ^ 53 ≤ significand := by exact_mod_cast hmany
      exact Or.inr (by linarith)
  have hproduct : |a * 10 ^ (dropped - kept + exponent) -
      significand * 10 ^ (dropped - kept + exponent)| ≤
        significand * 10 ^ (dropped - kept + exponent) / 2 ^ 52 := by
    rw [← sub_mul, abs_mul, abs_of_pos (hten _), mul_div_right_comm]
    exact mul_le_mul_of_nonneg_right hnear (hten _).le
  have hnumber : |(significand * 10 ^ (dropped - kept + exponent) : ℚ) -
      places (whole ++ fraction) * 10 ^ (exponent - fraction.length)| ≤
        places (whole ++ fraction) * 10 ^ (exponent - fraction.length) / 2 ^ 60 := by
    rw [show exponent - fraction.length = -fraction.length + exponent by omega,
      zpow_add₀ (by norm_num), zpow_add₀ (by norm_num) (-(fraction.length : Int)), ← mul_assoc,
      ← mul_assoc, ← sub_mul, abs_mul, abs_of_pos (hten exponent), mul_div_right_comm]
    exact mul_le_mul_of_nonneg_right hdigits (hten exponent).le
  have hv : (0 : ℚ) ≤ places (whole ++ fraction) * 10 ^ (exponent - fraction.length) :=
    mul_nonneg (Nat.cast_nonneg _) (hten _).le
  have hscale := within_scale? ha (by linarith) (by linarith) hone (dropped - kept + exponent)
  rw [hread]
  generalize a * 10 ^ (dropped - kept + exponent) = b at hproduct hscale
  generalize (significand * 10 ^ (dropped - kept + exponent) : ℚ) = w at hproduct hnumber
  generalize (places (whole ++ fraction) * 10 ^ (exponent - fraction.length) : ℚ) = v
    at hnumber hv ⊢
  obtain ⟨hblow, hbhigh⟩ := abs_le.mp hproduct
  obtain ⟨hwlow, hwhigh⟩ := abs_le.mp hnumber
  rcases hscale with ⟨y, hy, r, hvalue, hr, hclose⟩ | ⟨hnone, hlarge⟩
  · obtain ⟨hrlow, hrhigh⟩ := abs_le.mp hclose
    generalize (2 : ℚ) ^ (-900 : Int) = rest at hrlow hrhigh ⊢
    exact Or.inl ⟨y, hy, r, hvalue, hr, abs_le.mpr ⟨by linarith, by linarith⟩⟩
  · refine Or.inr ⟨hnone, ?_⟩
    have htwice : (2 : ℚ) ^ 1000 = 2 ^ 999 * 2 := pow_succ 2 999
    rw [htwice] at hlarge
    have hpos : (0 : ℚ) < 2 ^ 999 := pow_pos two_pos _
    generalize (2 : ℚ) ^ 999 = large at hlarge hpos ⊢
    linarith

omit hwhole hfraction in
/-- Few digits and a small power: the double is the number that is written, rounded. -/
theorem rounded_ofDigits? (hfew : places (whole ++ fraction) < 2 ^ 53)
    (hsmall : (exponent - fraction.length).natAbs ≤ 22) :
    ∃ y, ofDigits? false whole fraction exponent = some y ∧
      Rounded y (places (whole ++ fraction) * 10 ^ (exponent - fraction.length)) := by
  have hplaces := places_append whole fraction
  have hhead : accumulate 0 whole = (places whole, 0) := by
    have hle : places whole ≤ places whole * 10 ^ fraction.length :=
      Nat.le_mul_of_pos_right _ (Nat.pow_pos (by decide))
    have hall := @accumulate_eq whole 0 (by omega)
    rwa [zero_mul, zero_add] at hall
  have htail := @accumulate_eq fraction (places whole) (by omega)
  rw [← hplaces] at htail
  obtain ⟨a, ha, -, hexact⟩ := exists_toFloat (show places (whole ++ fraction) < 2 ^ 64 by omega)
  have hbits : (places (whole ++ fraction) : ℚ) < 2 ^ 53 := by exact_mod_cast hfew
  rw [hexact hfew] at ha
  unfold ofDigits?
  rw [hhead]
  dsimp only
  rw [htail, if_neg (not_le.mpr hexponent), Nat.sub_zero,
    show ((0 : Nat) : Int) - fraction.length + exponent = exponent - fraction.length by omega]
  obtain ⟨y, hy, hrounded⟩ :=
    rounded_scale?_exact ha (Nat.cast_nonneg _) (by linarith) hsmall
  exact ⟨y, by rw [hy]; rfl, hrounded⟩

end

/-- A sign is put before what is read without it. -/
theorem ofDigits?_sign (negative : Bool) (whole fraction : List Nat) (exponent : Int) :
    ofDigits? negative whole fraction exponent =
      (ofDigits? false whole fraction exponent).map fun x => if negative then -x else x := by
  unfold ofDigits?
  dsimp only
  split
  · split
    · rfl
    · rfl
  · rw [Option.map_map]
    rfl

end Telemetry.Double
