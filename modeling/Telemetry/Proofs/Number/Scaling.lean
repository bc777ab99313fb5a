import Telemetry.Proofs.Number.Arithmetic

/-!
Doubles times powers of ten. A power is exact up to the twenty-second, and then the nearest
double; the product is rounded once more. So a scaled number is close to the product, or
both are tiny, or there is no double as large.
-/

namespace Telemetry.Double

open Float.Model (Format UnpackedFloat totalExponent)
open Float.Model.UnpackedFloat

/-! ## Powers of ten -/

theorem tenTo_exact {power : Nat} (hpower : power ≤ 22) :
    value? (tenTo power) = some (10 ^ power) := by
  have hall : ∀ power < 23, isNegative (tenTo power) = false ∧
      (magnitude? (tenTo power)).any (fun size => size.mantissa * 2 ^ size.exponent.toNat =
        10 ^ power * 2 ^ (-size.exponent).toNat) = true := by
    decide +kernel
  obtain ⟨hsign, hsize⟩ := hall power (by omega)
  cases hmagnitude : magnitude? (tenTo power) with
  | none =>
    rw [hmagnitude] at hsize
    cases hsize
  | some size =>
    rw [hmagnitude] at hsize
    have hequal : size.mantissa * 2 ^ size.exponent.toNat =
        10 ^ power * 2 ^ (-size.exponent).toNat := of_decide_eq_true hsize
    have hcast : (size.mantissa : ℚ) * 2 ^ size.exponent.toNat =
        10 ^ power * 2 ^ (-size.exponent).toNat := by exact_mod_cast hequal
    have hvalue : size.value = 10 ^ power := by
      rw [size.value_eq_div, hcast, mul_div_cancel_right₀ _ (pow_ne_zero _ two_ne_zero)]
    rw [value?_eq, hmagnitude, hsign, ← hvalue]
    rfl

theorem ten_pow_le {power : Nat} (hpower : power ≤ 308) : (10 : ℚ) ^ power * 3 ≤ 2 ^ 1024 * 2 := by
  have hbound : 10 ^ 308 * 3 ≤ 2 ^ 1024 * 2 := by decide +kernel
  obtain ⟨more, hmore⟩ := Nat.exists_eq_add_of_le hpower
  rw [hmore, pow_add] at hbound
  have hten : 10 ^ power ≤ 10 ^ power * 10 ^ more :=
    Nat.le_mul_of_pos_right _ (Nat.pow_pos (by decide))
  have hmost : 10 ^ power * 3 ≤ 2 ^ 1024 * 2 := (Nat.mul_le_mul_right 3 hten).trans hbound
  exact_mod_cast hmost

theorem rounded_tenTo {power : Nat} (hlarge : 22 < power) (hpower : power ≤ 308) :
    Rounded (tenTo power) (10 ^ power) := by
  have hpos : 0 < 1 <<< 53 * 10 ^ power := Nat.mul_pos (by decide) (Nat.pow_pos (by decide))
  have htenTo : tenTo power = .ofModel (.pack (roundWithAccuracy Format.binary64 .positive
      (1 <<< 53 * 10 ^ power) (-53 + 0) .exact)) := by
    unfold tenTo Float.ofScientific
    rw [dif_neg (by omega)]
    change Float.ofModel (.pack (ofScientific Format.binary64 1 power)) = _
    unfold ofScientific
    have hmost : ¬ ((power : Int) > 2 ^ Format.binary64.exponentBits) := by
      change ¬ ((power : Int) > 2 ^ 11)
      omega
    have hleast : ¬ ((power : Int) < -(2 ^ Format.binary64.exponentBits + (Nat.log2 1 : Int))) := by
      omega
    rw [dif_neg one_ne_zero, if_neg hmost, if_neg hleast, if_pos (by omega)]
    rfl
  have hlow : (-53 + 0 : Int) ≤ Format.binary64.targetExponent
      (totalExponent (1 <<< 53 * 10 ^ power) (-53 + 0)) := by
    have hlog : 53 ≤ (1 <<< 53 * 10 ^ power).log2 := by
      rw [Nat.le_log2 hpos.ne', Nat.one_shiftLeft]
      exact Nat.le_mul_of_pos_right _ (Nat.pow_pos (by decide))
    rw [targetExponent_eq]
    omega
  have hvalue : ((1 <<< 53 * 10 ^ power : Nat) : ℚ) * 2 ^ (-53 + 0 : Int) = 10 ^ power := by
    rw [Nat.one_shiftLeft, add_zero, zpow_neg]
    push_cast
    rw [mul_comm, ← mul_assoc]
    norm_num
  have hrounds := rounded_roundWithAccuracy (holds_exact (1 <<< 53 * 10 ^ power)) hlow
  rw [hvalue, ← htenTo] at hrounds
  refine hrounds.resolve_left fun hinfinite => ?_
  have hten : (0 : ℚ) < 10 ^ power := pow_pos (by norm_num) _
  have hmost := ten_pow_le hpower
  generalize (2 : ℚ) ^ 1024 = bound at hinfinite hmost
  generalize (10 : ℚ) ^ power = ten at hinfinite hmost hten
  linarith [hinfinite.2]

/-- A finite double that is not negative, close to this number. -/
def Within (x : Float) (v part rest : ℚ) : Prop :=
  ∃ r, value? x = some r ∧ 0 ≤ r ∧ |r - v| ≤ v * part + rest

theorem Rounded.within {x : Float} {v : ℚ} (hrounded : Rounded x v) (hv : 0 ≤ v) :
    Within x v (1 / 2 ^ 53) (2 ^ (-1075 : Int)) := by
  obtain ⟨count, place, hrounds⟩ := hrounded
  have hclose := hrounds.close hv
  rw [div_eq_mul_one_div] at hclose
  exact ⟨_, hrounds.value, mul_nonneg count.cast_nonneg (zpow_nonneg two_pos.le _), hclose⟩

/-- A power of ten is exact as far as it fits, and then the nearest double. -/
theorem within_tenTo {power : Nat} (hpower : power ≤ 308) :
    ∃ t, value? (tenTo power) = some t ∧ |t - 10 ^ power| ≤ 10 ^ power / 2 ^ 52 ∧
      (power ≤ 22 → t = 10 ^ power) := by
  have hten : (1 : ℚ) ≤ 10 ^ power := one_le_pow₀ (by norm_num)
  rcases le_or_gt power 22 with hsmall | hlarge
  · refine ⟨_, tenTo_exact hsmall, ?_, fun _ => rfl⟩
    rw [sub_self, abs_zero]
    exact div_nonneg (by linarith) (by norm_num)
  · obtain ⟨t, hvalue, -, hclose⟩ := (rounded_tenTo hlarge hpower).within (by linarith)
    refine ⟨t, hvalue, hclose.trans ?_, fun hsmall => absurd hsmall (not_le.mpr hlarge)⟩
    have htiny : (2 : ℚ) ^ (-1075 : Int) ≤ 1 / 2 ^ 53 := by
      rw [← zpow_natCast, one_div, ← zpow_neg]
      exact zpow_le_zpow_right₀ one_le_two (by decide)
    generalize (2 : ℚ) ^ (-1075 : Int) = tiny at htiny ⊢
    linarith

/-! ## Scaling -/

/-- A number times a power of ten, rounded, or nothing because it is too large. -/
def Scaled (result : Option Float) (v : ℚ) : Prop :=
  (∃ y, result = some y ∧ Rounded y v) ∨ result = none ∧ 2 ^ 1024 * (1 - 1 / 2 ^ 53) ≤ v

theorem isInf_of_value? {x : Float} {v : ℚ} (hvalue : value? x = some v) : x.isInf = false := by
  unfold value? at hvalue
  change x.toModel.unpack.isInf = false
  cases hunpack : x.toModel.unpack with
  | zero sign => rfl
  | finite sign mantissa exponent hpos => rfl
  | infinity sign =>
    rw [hunpack] at hvalue
    cases hvalue
  | notANumber =>
    rw [hunpack] at hvalue
    cases hvalue

/-- A divisor that is close makes a quotient that is close. -/
theorem inverse_close {t ten : ℚ} (hten : 0 < ten) (hclose : |t - ten| ≤ ten / 2 ^ 52) :
    0 < t ∧ |t⁻¹ - ten⁻¹| ≤ ten⁻¹ / 2 ^ 52 + ten⁻¹ / 2 ^ 100 := by
  obtain ⟨hlow, hhigh⟩ := abs_le.mp hclose
  have ht : 0 < t := by linarith
  refine ⟨ht, ?_⟩
  have hratio : t⁻¹ = ten⁻¹ * (ten / t) := by field_simp
  have hdistance : |ten / t - 1| ≤ ten / t / 2 ^ 52 := by
    have hsame : ten / t - 1 = (ten - t) / t := by field_simp
    rw [hsame, abs_div, abs_of_pos ht, abs_sub_comm, div_right_comm]
    exact div_le_div_of_nonneg_right hclose ht.le
  have hunit : 0 < ten⁻¹ := inv_pos.mpr hten
  rw [hratio]
  generalize ten / t = ratio at hdistance ⊢
  have hnear : |ratio - 1| ≤ 1 / 2 ^ 52 + 1 / 2 ^ 100 := by
    have hmost := (abs_le.mp hdistance).2
    refine hdistance.trans ?_
    linarith
  calc |ten⁻¹ * ratio - ten⁻¹| = ten⁻¹ * |ratio - 1| := by
        rw [← abs_of_pos hunit, ← abs_mul, abs_of_pos hunit, mul_sub, mul_one]
    _ ≤ ten⁻¹ * (1 / 2 ^ 52 + 1 / 2 ^ 100) := mul_le_mul_of_nonneg_left hnear hunit.le
    _ = ten⁻¹ / 2 ^ 52 + ten⁻¹ / 2 ^ 100 := by ring

/-- What a number is multiplied by for a power of ten. -/
structure Factor (power : Int) (f : ℚ) : Prop where
  close : |f - 10 ^ power| ≤ 10 ^ power / 2 ^ 52 + 10 ^ power / 2 ^ 100
  exact : power.natAbs ≤ 22 → f = 10 ^ power

namespace Factor

variable {power : Int} {f : ℚ} (hfactor : Factor power f)

include hfactor

theorem nonneg : 0 ≤ f := by
  have hten : (0 : ℚ) < 10 ^ power := zpow_pos (by norm_num) _
  have hlow := (abs_le.mp hfactor.close).1
  generalize (10 : ℚ) ^ power = ten at hten hlow
  linarith

theorem le_of_neg (hpower : power < 0) : f ≤ 1 / 8 := by
  have hten : (10 : ℚ) ^ power ≤ 10 ^ (-1 : Int) := zpow_le_zpow_right₀ (by norm_num) (by omega)
  have hhigh := (abs_le.mp hfactor.close).2
  rw [zpow_neg_one] at hten
  generalize (10 : ℚ) ^ power = ten at hten hhigh
  linarith

end Factor

variable {x : Float} {a : ℚ} (hx : value? x = some a) (ha : 0 ≤ a)

include hx ha

theorem rounded_div_tenTo (hmost : a ≤ 2 ^ 65) {power : Nat} (hpos : 0 < power)
    (hpower : power ≤ 308) : ∃ f, Factor (-power) f ∧ Rounded (x / tenTo power) (a * f) := by
  obtain ⟨t, hvalue, hclose, hexact⟩ := within_tenTo hpower
  have hten : (0 : ℚ) < 10 ^ power := pow_pos (by norm_num) _
  obtain ⟨ht, hnear⟩ := inverse_close hten hclose
  have hfactor : Factor (-power) t⁻¹ := by
    refine ⟨by rwa [zpow_neg, zpow_natCast], fun hsmall => ?_⟩
    rw [hexact (by omega), zpow_neg, zpow_natCast]
  refine ⟨_, hfactor, ?_⟩
  have hrounds := rounded_div hx ha hvalue ht
  rw [div_eq_mul_inv] at hrounds
  refine hrounds.resolve_left fun hinfinite => ?_
  have hsmall := hfactor.le_of_neg (by omega)
  have hproduct : a * t⁻¹ ≤ a * (1 / 8) := mul_le_mul_of_nonneg_left hsmall ha
  have hlarge : (2 : ℚ) ^ 65 ≤ 2 ^ 1024 := pow_le_pow_right₀ one_le_two (by decide)
  generalize (2 : ℚ) ^ 1024 = bound at hinfinite hlarge
  linarith [hinfinite.2]

theorem rounded_scale? (hmost : a ≤ 2 ^ 65) {power : Int} (hneg : power < 0)
    (hpower : power.natAbs ≤ 308) :
    ∃ f y, Factor power f ∧ scale? x power = some y ∧ Rounded y (a * f) := by
  rw [scale?, if_pos hpower, if_neg (not_le.mpr hneg)]
  have hpos : 0 < power.natAbs := by omega
  obtain ⟨f, hfactor, hrounded⟩ := rounded_div_tenTo hx ha hmost hpos hpower
  rw [show (-(power.natAbs : Int)) = power by omega] at hfactor
  exact ⟨f, _, hfactor, rfl, hrounded⟩

/-- Up to the largest power of ten a number is scaled in one step. -/
theorem scaled_scale? (hmost : a ≤ 2 ^ 65) {power : Int} (hpower : power.natAbs ≤ 308) :
    ∃ f, Factor power f ∧ Scaled (scale? x power) (a * f) := by
  rcases lt_or_ge power 0 with hpart | hwhole
  · obtain ⟨f, y, hfactor, hy, hrounded⟩ := rounded_scale? hx ha hmost hpart hpower
    exact ⟨f, hfactor, Or.inl ⟨y, hy, hrounded⟩⟩
  · rw [scale?, if_pos hpower, if_pos hwhole]
    obtain ⟨t, hvalue, hclose, hexact⟩ := within_tenTo hpower
    have hten : (1 : ℚ) ≤ 10 ^ power.natAbs := one_le_pow₀ (by norm_num)
    have hcast : (10 : ℚ) ^ power = 10 ^ power.natAbs := by
      rw [← zpow_natCast, Int.natAbs_of_nonneg hwhole]
    have hfactor : Factor power t := by
      refine ⟨?_, fun hsmall => by rw [hexact hsmall, hcast]⟩
      rw [hcast]
      linarith
    refine ⟨t, hfactor, ?_⟩
    rcases rounded_mul hx ha hvalue hfactor.nonneg with ⟨hinfinite, hlarge⟩ | hrounded
    · exact Or.inr ⟨if_pos hinfinite, hlarge⟩
    · obtain ⟨r, hr, _⟩ := hrounded.within (mul_nonneg ha hfactor.nonneg)
      exact Or.inl ⟨_, if_neg (by simp [isInf_of_value? hr]), hrounded⟩

omit hx ha in
theorem Rounded.tiny {y : Float} {v : ℚ} (hrounded : Rounded y v) (hv : 0 ≤ v)
    (hsmall : v ≤ 2 ^ (-901 : Int)) : ∃ r, value? y = some r ∧ 0 ≤ r ∧ r ≤ 2 ^ (-900 : Int) := by
  obtain ⟨r, hvalue, hr, hclose⟩ := hrounded.within hv
  refine ⟨r, hvalue, hr, ?_⟩
  have hleast : (2 : ℚ) ^ (-1075 : Int) ≤ 2 ^ (-902 : Int) :=
    zpow_le_zpow_right₀ one_le_two (by decide)
  have htwice : (2 : ℚ) ^ (-901 : Int) = 2 ^ (-902 : Int) * 2 :=
    zpow_add_one₀ two_ne_zero (-902)
  have hfour : (2 : ℚ) ^ (-900 : Int) = 2 ^ (-901 : Int) * 2 :=
    zpow_add_one₀ two_ne_zero (-901)
  have hhigh := (abs_le.mp hclose).2
  generalize (2 : ℚ) ^ (-1075 : Int) = least at hhigh hleast
  generalize (2 : ℚ) ^ (-900 : Int) = most at hfour ⊢
  generalize (2 : ℚ) ^ (-901 : Int) = half at hsmall htwice hfour
  linarith

/-- A tiny number stays tiny, however often it is divided. -/
theorem scale?_tiny {power : Int} (hpower : power < 0) (htiny : a ≤ 2 ^ (-900 : Int)) :
    ∃ y r, scale? x power = some y ∧ value? y = some r ∧ 0 ≤ r ∧ r ≤ 2 ^ (-900 : Int) := by
  induction hsize : power.natAbs using Nat.strong_induction_on generalizing x a power with
  | _ size ih =>
    have hmost : a ≤ 2 ^ 65 := by
      refine htiny.trans ?_
      rw [← zpow_natCast]
      exact zpow_le_zpow_right₀ one_le_two (by decide)
    have htwice : (2 : ℚ) ^ (-900 : Int) = 2 ^ (-901 : Int) * 2 :=
      zpow_add_one₀ two_ne_zero (-901)
    have hproduct : ∀ f : ℚ, f ≤ 1 / 8 → a * f ≤ 2 ^ (-901 : Int) := by
      intro f hsmall
      have heighth : a * f ≤ a * (1 / 8) := mul_le_mul_of_nonneg_left hsmall ha
      linarith
    by_cases hnear : power.natAbs ≤ 308
    · obtain ⟨f, y, hfactor, hy, hrounded⟩ := rounded_scale? hx ha hmost hpower hnear
      obtain ⟨r, hr⟩ := hrounded.tiny (mul_nonneg ha hfactor.nonneg)
        (hproduct f (hfactor.le_of_neg hpower))
      exact ⟨y, r, hy, hr⟩
    · rw [scale?, if_neg hnear]
      split
      next => exact ⟨x, a, rfl, hx, ha, htiny⟩
      next =>
        rw [if_neg (by omega)]
        obtain ⟨f, hfactor, hrounded⟩ := @rounded_div_tenTo x a hx ha hmost 308 (by decide) le_rfl
        obtain ⟨r, hvalue, hr, hsmall⟩ := hrounded.tiny (mul_nonneg ha hfactor.nonneg)
          (hproduct f (hfactor.le_of_neg (by decide)))
        exact ih _ (by omega) hvalue hr (by omega) hsmall rfl

omit hx ha in
theorem two_pow_le : (2 : ℚ) ^ 1000 ≤ 10 ^ 308 := by
  have hnat : 2 ^ 1000 ≤ 10 ^ 308 := by decide +kernel
  exact_mod_cast hnat

omit hx ha in
theorem ten_zpow_le {power : Int} (hpower : power ≤ -308) :
    (10 : ℚ) ^ power ≤ 2 ^ (-(1000 : Nat) : Int) := by
  have hmost : (10 : ℚ) ^ power ≤ 10 ^ (-(308 : Nat) : Int) :=
    zpow_le_zpow_right₀ (by norm_num) hpower
  refine hmost.trans ?_
  rw [zpow_neg, zpow_neg, zpow_natCast, zpow_natCast]
  exact inv_anti₀ (pow_pos two_pos _) two_pow_le

/-- Up to the largest power of ten a scaled number is close to the product, or there is no
double as large. -/
theorem within_scale?_near (hmost : a ≤ 2 ^ 65) {power : Int} (hpower : power.natAbs ≤ 308) :
    (∃ y, scale? x power = some y ∧
      Within y (a * 10 ^ power) (1 / 2 ^ 51) (2 ^ (-900 : Int))) ∨
    scale? x power = none ∧ 2 ^ 1000 ≤ a * 10 ^ power := by
  obtain ⟨f, hfactor, hscaled⟩ := scaled_scale? hx ha hmost hpower
  have hclose : |a * f - a * 10 ^ power| ≤
      a * 10 ^ power / 2 ^ 52 + a * 10 ^ power / 2 ^ 100 := by
    rw [← mul_sub, abs_mul, abs_of_nonneg ha, mul_div_assoc, mul_div_assoc, ← mul_add]
    exact mul_le_mul_of_nonneg_left hfactor.close ha
  have hproduct : 0 ≤ a * 10 ^ power := mul_nonneg ha (zpow_nonneg (by norm_num) _)
  have hproduct' : 0 ≤ a * f := mul_nonneg ha hfactor.nonneg
  generalize a * 10 ^ power = v at hproduct hclose ⊢
  generalize a * f = w at hclose hscaled hproduct'
  obtain ⟨hlow, hhigh⟩ := abs_le.mp hclose
  rcases hscaled with ⟨y, hy, hrounded⟩ | ⟨hnone, hlarge⟩
  · obtain ⟨r, hvalue, hr, hround⟩ := hrounded.within hproduct'
    have hleast : (2 : ℚ) ^ (-1075 : Int) ≤ 2 ^ (-900 : Int) :=
      zpow_le_zpow_right₀ one_le_two (by decide)
    generalize (2 : ℚ) ^ (-1075 : Int) = least at hround hleast
    generalize (2 : ℚ) ^ (-900 : Int) = rest at hleast ⊢
    obtain ⟨hlow', hhigh'⟩ := abs_le.mp hround
    exact Or.inl ⟨y, hy, r, hvalue, hr, abs_le.mpr ⟨by linarith, by linarith⟩⟩
  · refine Or.inr ⟨hnone, ?_⟩
    have hsplit : (2 : ℚ) ^ 1024 = 2 ^ 24 * 2 ^ 1000 := by rw [← pow_add]
    have hpos : (0 : ℚ) < 2 ^ 1000 := pow_pos two_pos _
    rw [hsplit] at hlarge
    generalize (2 : ℚ) ^ 1000 = large at hlarge hpos ⊢
    linarith

/-- Below it both the product and what is left of it are tiny. -/
theorem within_scale?_tiny (hmost : a ≤ 2 ^ 65) {power : Int} (hpower : power < -308)
    (hsome : ¬ (x == 0) = true) :
    ∃ y, scale? x power = some y ∧
      Within y (a * 10 ^ power) (1 / 2 ^ 51) (2 ^ (-900 : Int)) := by
  have hleast : (2 : ℚ) ^ 66 * 2 ^ (-(1000 : Nat) : Int) ≤ 2 ^ (-901 : Int) := by
    rw [← zpow_natCast, ← zpow_add₀ two_ne_zero]
    exact zpow_le_zpow_right₀ one_le_two (by decide)
  have hten : (0 : ℚ) < 10 ^ power := zpow_pos (by norm_num) _
  have hproduct : 0 ≤ a * 10 ^ power := mul_nonneg ha hten.le
  have hsmall : a * 10 ^ power ≤ 2 ^ (-900 : Int) := by
    have hunit := ten_zpow_le hpower.le
    have hmore := mul_le_mul hmost hunit hten.le (by norm_num)
    have htwice : (2 : ℚ) ^ (-901 : Int) ≤ 2 ^ (-900 : Int) :=
      zpow_le_zpow_right₀ one_le_two (by decide)
    have hpos : (0 : ℚ) < 2 ^ (-(1000 : Nat) : Int) := zpow_pos two_pos _
    linarith
  obtain ⟨f, hfactor, hrounded⟩ := @rounded_div_tenTo x a hx ha hmost 308 (by decide) le_rfl
  have hf : f ≤ 2 ^ (-(1000 : Nat) : Int) * 2 := by
    have hunit := @ten_zpow_le (-(308 : Nat)) le_rfl
    have hpos : (0 : ℚ) < 10 ^ (-(308 : Nat) : Int) := zpow_pos (by norm_num) _
    have hhigh := (abs_le.mp hfactor.close).2
    generalize (10 : ℚ) ^ (-(308 : Nat) : Int) = ten at hunit hpos hhigh
    linarith
  have htiny : a * f ≤ 2 ^ (-901 : Int) := by
    have hmore := mul_le_mul hmost hf hfactor.nonneg (by norm_num)
    linarith
  obtain ⟨r, hvalue, hr, hrsmall⟩ := hrounded.tiny (mul_nonneg ha hfactor.nonneg) htiny
  obtain ⟨y, r', hy, hvalue', hr', hrsmall'⟩ :=
    @scale?_tiny _ r hvalue hr (power + 308) (by omega) hrsmall
  rw [scale?, if_neg (by omega), if_neg hsome, if_neg (by omega)]
  refine ⟨y, hy, r', hvalue', hr', ?_⟩
  generalize a * 10 ^ power = v at hproduct hsmall ⊢
  generalize (2 : ℚ) ^ (-900 : Int) = rest at hsmall hrsmall' ⊢
  exact abs_le.mpr ⟨by linarith, by linarith⟩

/-- A scaled number is close to the product, or there is no double as large. -/
theorem within_scale? (hmost : a ≤ 2 ^ 65) (hone : a = 0 ∨ 1 ≤ a) (power : Int) :
    (∃ y, scale? x power = some y ∧
      Within y (a * 10 ^ power) (1 / 2 ^ 51) (2 ^ (-900 : Int))) ∨
    scale? x power = none ∧ 2 ^ 1000 ≤ a * 10 ^ power := by
  by_cases hnear : power.natAbs ≤ 308
  · exact within_scale?_near hx ha hmost hnear
  by_cases hzero : (x == 0) = true
  · have hscale : scale? x power = some x := by rw [scale?, if_neg hnear, if_pos hzero]
    rw [beq_zero_iff, hx, Option.some.injEq] at hzero
    subst hzero
    refine Or.inl ⟨x, hscale, 0, hx, le_rfl, ?_⟩
    rw [zero_mul, sub_zero, abs_zero, zero_mul, zero_add]
    exact zpow_nonneg two_pos.le _
  · have hone : 1 ≤ a := by
      refine hone.resolve_left fun hnone => hzero (beq_zero_iff.mpr ?_)
      rw [hx, hnone]
    rcases lt_or_ge power 0 with hsmall | hlarge
    · exact Or.inl (within_scale?_tiny hx ha hmost (by omega) hzero)
    · refine Or.inr ⟨by rw [scale?, if_neg hnear, if_neg hzero, if_pos hlarge], ?_⟩
      have hbeyond : (10 : ℚ) ^ 308 ≤ 10 ^ power := by
        rw [← zpow_natCast]
        exact zpow_le_zpow_right₀ (by norm_num) (by omega)
      exact (two_pow_le.trans hbeyond).trans
        (le_mul_of_one_le_left (zpow_nonneg (by norm_num) _) hone)

/-- A whole number of 53 bits and a small power of ten are exact, so only the product is
rounded. -/
theorem rounded_scale?_exact (hmost : a ≤ 2 ^ 65) {power : Int} (hpower : power.natAbs ≤ 22) :
    ∃ y, scale? x power = some y ∧ Rounded y (a * 10 ^ power) := by
  obtain ⟨f, hfactor, hscaled⟩ := scaled_scale? hx ha hmost (show power.natAbs ≤ 308 by omega)
  rw [hfactor.exact hpower] at hscaled
  refine hscaled.resolve_right fun hnone => ?_
  have hten : (10 : ℚ) ^ power ≤ 10 ^ (22 : Int) := zpow_le_zpow_right₀ (by norm_num) (by omega)
  have hproduct := mul_le_mul hmost hten (zpow_nonneg (by norm_num) _) (by norm_num)
  have hsplit : (2 : ℚ) ^ 1024 = 2 ^ 200 * 2 ^ 824 := by rw [← pow_add]
  have hone : (1 : ℚ) ≤ 2 ^ 824 := one_le_pow₀ one_le_two
  have hlarge := hnone.2
  rw [hsplit] at hlarge
  generalize (2 : ℚ) ^ 824 = large at hlarge hone
  generalize a * 10 ^ power = v at hproduct hlarge
  norm_num at hproduct hlarge
  linarith

end Telemetry.Double
