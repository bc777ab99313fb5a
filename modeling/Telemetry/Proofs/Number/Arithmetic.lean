import Telemetry.Proofs.Number.Rounding

/-!
Whole numbers as doubles, and products and quotients of doubles. Each of them is the exact
result, rounded once.
-/

namespace Telemetry.Double

open Float.Model (Format UnpackedFloat totalExponent)
open Float.Model.UnpackedFloat

theorem log2_shiftLeft {n : Nat} (hn : n ≠ 0) (shift : Nat) :
    (n <<< shift).log2 = n.log2 + shift := by
  induction shift with
  | zero => rfl
  | succ shift ih =>
    have hshifted : n <<< shift ≠ 0 := by
      rw [Nat.shiftLeft_eq]
      exact Nat.mul_ne_zero hn (Nat.two_pow_pos shift).ne'
    rw [Nat.shiftLeft_succ, Nat.log2_two_mul hshifted, ih, Nat.add_assoc]

theorem rounded_zero (sign : Sign) : Rounded (.ofModel (.pack (.zero sign))) 0 := by
  have hcanonical : (Magnitude.mk 0 (-1074)).Canonical := ⟨by decide, le_rfl, Or.inl rfl⟩
  obtain ⟨hvalue, hlast⟩ := @value?_ofParts sign _ _ hcanonical (by decide)
  refine ⟨0, -1074, le_rfl, Or.inl rfl, ⟨by norm_num, fun _ => rfl⟩, ?_, fun _ => hlast⟩
  rw [Nat.cast_zero, zero_mul]
  cases sign with
  | negative => exact hvalue.trans (by simp [Sign.apply])
  | positive => exact hvalue.trans (by simp [Sign.apply])

/-- A whole number of 64 bits is rounded once. -/
theorem rounded_toFloat (n : UInt64) : Rounded n.toFloat n.toNat := by
  have hn := n.toNat_lt
  change Rounded
    (.ofModel (.pack (UnpackedFloat.normalize Format.binary64 n.toNat 0 .positive))) n.toNat
  generalize n.toNat = whole at hn
  rcases Nat.eq_zero_or_pos whole with rfl | hpos
  · exact rounded_zero .positive
  · let shift := (0 - (max ((whole.log2 : Int) + 0 - 52) (-1074))).toNat
    have hnormal : UnpackedFloat.normalize Format.binary64 whole 0 .positive =
        roundWithAccuracy Format.binary64 .positive (whole <<< shift) (0 - shift) .exact := by
      unfold UnpackedFloat.normalize
      rw [Int.compare_eq_gt.mpr (Int.natCast_pos.mpr hpos)]
      dsimp only
      unfold UnpackedFloat.round decreaseExponent
      rw [targetExponent_eq]
      rfl
    have hlow : (0 - shift : Int) ≤ Format.binary64.targetExponent
        (totalExponent (whole <<< shift) (0 - shift)) := by
      rw [targetExponent_eq, log2_shiftLeft hpos.ne']
      omega
    have hvalue : ((whole <<< shift : Nat) : ℚ) * 2 ^ (0 - shift : Int) = whole := by
      rw [Nat.shiftLeft_eq, zero_sub, zpow_neg, zpow_natCast]
      push_cast
      field_simp
    have hrounds := rounded_roundWithAccuracy (holds_exact (whole <<< shift)) hlow
    rw [hvalue, ← hnormal] at hrounds
    refine hrounds.resolve_left fun hinfinite => ?_
    have hsmall : (whole : ℚ) < 2 ^ 64 := by exact_mod_cast hn
    have hlarge : (2 : ℚ) ^ 64 * 2 ≤ 2 ^ 1024 := by
      rw [← pow_succ]
      exact pow_le_pow_right₀ one_le_two (by decide)
    generalize (2 : ℚ) ^ 1024 = bound at hinfinite hlarge
    linarith [hinfinite.2]

/-! ## Products and quotients -/

/-- A double that is not negative, taken apart. -/
theorem unpack_of_nonneg {x : Float} {v : ℚ} (hvalue : value? x = some v) (hv : 0 ≤ v) :
    (∃ sign, x.toModel.unpack = .zero sign ∧ v = 0) ∨
    ∃ mantissa exponent hpos, x.toModel.unpack = .finite .positive mantissa exponent hpos ∧
      v = mantissa * 2 ^ exponent ∧ (Magnitude.mk mantissa exponent).Canonical := by
  have hparts := magnitude?_unpack x
  unfold value? at hvalue
  cases hunpack : x.toModel.unpack with
  | zero sign =>
    rw [hunpack] at hvalue
    exact Or.inl ⟨sign, rfl, (Option.some.inj hvalue).symm⟩
  | finite sign mantissa exponent hpos =>
    rw [hunpack] at hvalue hparts
    have hv' := Option.some.inj hvalue
    cases sign with
    | positive =>
      exact Or.inr ⟨mantissa, exponent, hpos, rfl, hv'.symm, (canonical_of_magnitude? hparts.1).1⟩
    | negative =>
      have hnegative : (0 : ℚ) < mantissa * 2 ^ exponent :=
        mul_pos (Nat.cast_pos.mpr hpos) (zpow_pos two_pos _)
      simp only [Sign.apply, Int.cast_neg, Int.cast_natCast] at hv'
      linarith
  | infinity sign =>
    rw [hunpack] at hvalue
    cases hvalue
  | notANumber =>
    rw [hunpack] at hvalue
    cases hvalue

/-- A dividend that is longer by 53 bits has a quotient of 53 bits. -/
theorem quotient_bits {m m' shift : Nat} (hm : 0 < m) (hm' : 0 < m')
    (hlong : m'.log2 + 53 ≤ m.log2 + shift) : 52 ≤ (m <<< shift / m').log2 := by
  have hlow : 2 ^ (m'.log2 + 53) ≤ m <<< shift := by
    rw [Nat.shiftLeft_eq]
    calc 2 ^ (m'.log2 + 53) ≤ 2 ^ (m.log2 + shift) := Nat.pow_le_pow_right two_pos hlong
      _ = 2 ^ m.log2 * 2 ^ shift := pow_add _ _ _
      _ ≤ m * 2 ^ shift := Nat.mul_le_mul_right _ (Nat.log2_self_le hm.ne')
  have hquotient : 2 ^ 52 ≤ m <<< shift / m' := by
    rw [Nat.le_div_iff_mul_le hm']
    calc 2 ^ 52 * m' ≤ 2 ^ 52 * 2 ^ (m'.log2 + 1) := Nat.mul_le_mul_left _ Nat.lt_log2_self.le
      _ = 2 ^ (m'.log2 + 53) := by rw [← pow_add]; congr 1; omega
      _ ≤ m <<< shift := hlow
  rwa [Nat.le_log2 (by omega)]

section

variable {x y : Float} {a b : ℚ} (hx : value? x = some a) (ha : 0 ≤ a) (hy : value? y = some b)

include hx ha hy

/-- A product is rounded once. -/
theorem rounded_mul (hb : 0 ≤ b) : RoundedOrLarge (x * y) (a * b) := by
  change RoundedOrLarge (.ofModel (.pack (mul Format.binary64 x.toModel.unpack y.toModel.unpack))) _
  rcases unpack_of_nonneg hx ha with ⟨sign, hzero, rfl⟩ | ⟨m, e, hm, hunpack, rfl, hcanonical⟩
  · rw [hzero, zero_mul]
    rcases unpack_of_nonneg hy hb with ⟨sign', hzero', _⟩ | ⟨m', e', hm', hunpack', _⟩
    · rw [hzero']
      exact Or.inr (rounded_zero _)
    · rw [hunpack']
      exact Or.inr (rounded_zero _)
  · rcases unpack_of_nonneg hy hb with
      ⟨sign', hzero', rfl⟩ | ⟨m', e', hm', hunpack', rfl, hcanonical'⟩
    · rw [hunpack, hzero', mul_zero]
      exact Or.inr (rounded_zero _)
    · rw [hunpack, hunpack']
      -- One factor with all its bits gives the product enough of them.
      have hmany : 2 ^ 52 ≤ m ∨ 2 ^ 52 ≤ m' → 52 ≤ (m * m').log2 := by
        intro hfull
        rw [Nat.le_log2 (Nat.mul_pos hm hm').ne']
        rcases hfull with hfull | hfull
        · exact hfull.trans (Nat.le_mul_of_pos_right m hm')
        · exact hfull.trans (Nat.le_mul_of_pos_left m' hm)
      have hlow : e + e' ≤ Format.binary64.targetExponent (totalExponent (m * m') (e + e')) := by
        rw [targetExponent_eq]
        rcases hcanonical.full with hleast | hfull
        · rcases hcanonical'.full with hleast' | hfull'
          · dsimp only at hleast hleast'
            omega
          · have hlog := hmany (Or.inr hfull')
            omega
        · have hlog := hmany (Or.inl hfull)
          omega
      have hvalue : ((m * m' : Nat) : ℚ) * 2 ^ (e + e') = m * 2 ^ e * (m' * 2 ^ e') := by
        rw [zpow_add₀ two_ne_zero]
        push_cast
        ring
      have hrounds := rounded_roundWithAccuracy (holds_exact (m * m')) hlow
      rwa [hvalue] at hrounds

/-- A quotient is rounded once. -/
theorem rounded_div (hb : 0 < b) : RoundedOrLarge (x / y) (a / b) := by
  change RoundedOrLarge (.ofModel (.pack (div Format.binary64 x.toModel.unpack y.toModel.unpack))) _
  rcases unpack_of_nonneg hy hb.le with ⟨_, _, hzero⟩ | ⟨m', e', hm', hunpack', rfl, _⟩
  · exact absurd hzero hb.ne'
  rcases unpack_of_nonneg hx ha with ⟨sign, hzero, rfl⟩ | ⟨m, e, hm, hunpack, rfl, _⟩
  · rw [hzero, hunpack', zero_div]
    exact Or.inr (rounded_zero _)
  · rw [hunpack, hunpack']
    let place : Int := min (e - e')
      (Format.binary64.targetExponent (totalExponent m e - totalExponent m' e'))
    have hplace : place = min (e - e') (max (m.log2 + e - (m'.log2 + e') - 53) (-1074)) := by
      change min (e - e') (max (_ - 53) (-1074)) = _
      unfold totalExponent
      omega
    obtain ⟨shift, hshift⟩ := Int.eq_ofNat_of_zero_le (show 0 ≤ e - e' - place by omega)
    have hquotient : div Format.binary64 (.finite .positive m e hm) (.finite .positive m' e' hm') =
        roundWithAccuracy Format.binary64 .positive (m <<< shift / m') place
          (accuracyOfFraction (m <<< shift % m') m') := by
      change roundWithAccuracy _ _ (m <<< (e - e' - place).toNat / m') place
        (accuracyOfFraction (m <<< (e - e' - place).toNat % m') m') = _
      rw [hshift]
      rfl
    have hlow : place ≤ Format.binary64.targetExponent
        (totalExponent (m <<< shift / m') place) := by
      rw [targetExponent_eq]
      rcases le_or_gt place (-1074) with hleast | hnormal
      · omega
      · have hlog := quotient_bits hm hm' (show m'.log2 + 53 ≤ m.log2 + shift by omega)
        omega
    have hvalue : ((m <<< shift : Nat) / m' : ℚ) * 2 ^ place = m * 2 ^ e / (m' * 2 ^ e') := by
      have hpower : (2 : ℚ) ^ e = 2 ^ shift * 2 ^ place * 2 ^ e' := by
        rw [← zpow_natCast, ← zpow_add₀ two_ne_zero, ← zpow_add₀ two_ne_zero]
        congr 1
        omega
      have hunit : (2 : ℚ) ^ e' ≠ 0 := zpow_ne_zero _ two_ne_zero
      rw [Nat.shiftLeft_eq, hpower]
      push_cast
      field_simp
    have hrounds := rounded_roundWithAccuracy (holds_quotient (m <<< shift) hm') hlow
    rwa [hvalue, ← hquotient] at hrounds

end

/-! ## The sign, and zero -/

/-- A finite double with the other sign. -/
theorem neg_eq {x : Float} {v : ℚ} (hvalue : value? x = some v) :
    ∃ (sign : Sign) (mantissa : Nat) (exponent : Int),
      (Magnitude.mk mantissa exponent).Canonical ∧ exponent ≤ 971 ∧
      -x = ofParts (-sign) mantissa exponent ∧ v = (sign.apply mantissa : ℚ) * 2 ^ exponent ∧
      mantissa % 2 = x.toBits.toNat % 2 := by
  have hparts := magnitude?_unpack x
  change ∃ sign mantissa exponent, _ ∧ _ ∧
    Float.ofModel (.pack x.toModel.unpack.neg) = ofParts (-sign) mantissa exponent ∧ _
  unfold value? at hvalue
  cases hunpack : x.toModel.unpack with
  | zero sign =>
    rw [hunpack] at hparts hvalue
    obtain ⟨hcanonical, hhigh, hlast⟩ := canonical_of_magnitude? hparts.1
    refine ⟨sign, 0, -1074, hcanonical, hhigh, rfl, ?_, hlast⟩
    rw [← Option.some.inj hvalue]
    cases sign with
    | negative => simp [Sign.apply]
    | positive => simp [Sign.apply]
  | finite sign mantissa exponent hpos =>
    rw [hunpack] at hparts hvalue
    obtain ⟨hcanonical, hhigh, hlast⟩ := canonical_of_magnitude? hparts.1
    refine ⟨sign, mantissa, exponent, hcanonical, hhigh, ?_, (Option.some.inj hvalue).symm, hlast⟩
    unfold ofParts
    rw [dif_neg hpos.ne']
    rfl
  | infinity sign =>
    rw [hunpack] at hvalue
    cases hvalue
  | notANumber =>
    rw [hunpack] at hvalue
    cases hvalue

theorem value?_neg {x : Float} {v : ℚ} (hvalue : value? x = some v) :
    value? (-x) = some (-v) ∧ (-x).toBits.toNat % 2 = x.toBits.toNat % 2 := by
  obtain ⟨sign, mantissa, exponent, hcanonical, hhigh, hneg, rfl, hlast⟩ := neg_eq hvalue
  obtain ⟨hvalue', hlast'⟩ := @value?_ofParts (-sign) _ _ hcanonical hhigh
  rw [hneg, hvalue', hlast', hlast]
  refine ⟨?_, rfl⟩
  have happly : (-sign).apply mantissa = -sign.apply mantissa := by
    cases sign with
    | negative => exact (neg_neg _).symm
    | positive => rfl
  rw [happly, Int.cast_neg, neg_mul]

theorem Nearest.neg {x : Float} {v : ℚ} (hnearest : Nearest x v) : Nearest (-x) (-v) := by
  obtain ⟨q, hvalue, hleast, htie⟩ := hnearest
  obtain ⟨hvalue', hlast⟩ := value?_neg hvalue
  have hmirror : ∀ r : ℚ, |r - -v| = |-r - v| := by
    intro r
    rw [← abs_neg]
    congr 1
    ring
  refine ⟨-q, hvalue', fun y r hy => ?_, fun y r hy heq hother => ?_⟩
  · rw [hmirror, hmirror, neg_neg]
    exact hleast (-y) (-r) (value?_neg hy).1
  · rw [hmirror, hmirror, neg_neg] at heq
    rw [hlast]
    exact htie (-y) (-r) (value?_neg hy).1 heq fun hsame => hother (by rw [← hsame, neg_neg])

/-- Reading with the other sign is rounding with the other sign. -/
theorem RoundsTo.neg_value_unique {x y : Float} {v : ℚ} {count : Nat} {place : Int}
    (hrounds : RoundsTo x v count place) (hnearest : Nearest y (-v)) : value? y = value? (-x) := by
  have hmirror := hnearest.neg
  rw [neg_neg] at hmirror
  obtain ⟨r, hvalue, _⟩ := hnearest
  have hsame := hrounds.value_unique hmirror
  rw [(value?_neg hvalue).1, hrounds.value] at hsame
  rw [hvalue, (value?_neg hrounds.value).1, ← Option.some.inj hsame, neg_neg]

theorem unpack_zero : (0 : Float).toModel.unpack = .zero .positive := by
  rfl

theorem beq_zero_iff {x : Float} : (x == 0) = true ↔ value? x = some 0 := by
  change (x.toModel.unpack.compare (0 : Float).toModel.unpack == some .eq) = true ↔ _
  rw [unpack_zero]
  unfold value?
  cases hunpack : x.toModel.unpack with
  | zero sign => exact ⟨fun _ => rfl, fun _ => rfl⟩
  | finite sign mantissa exponent hpos =>
    have hpower : (2 : ℚ) ^ exponent ≠ 0 := zpow_ne_zero _ two_ne_zero
    cases sign with
    | negative =>
      refine iff_of_false Bool.false_ne_true fun hzero => ?_
      simp [Sign.apply, hpower, hpos.ne'] at hzero
    | positive =>
      refine iff_of_false Bool.false_ne_true fun hzero => ?_
      simp [Sign.apply, hpower, hpos.ne'] at hzero
  | infinity sign =>
    cases sign with
    | negative => exact iff_of_false Bool.false_ne_true (Option.some_ne_none _).symm
    | positive => exact iff_of_false Bool.false_ne_true (Option.some_ne_none _).symm
  | notANumber => exact iff_of_false Bool.false_ne_true (Option.some_ne_none _).symm

end Telemetry.Double
