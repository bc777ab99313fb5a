import Mathlib
import Telemetry.Number.Double

/-!
Doubles as rational numbers. A finite double is a mantissa of at most 53 bits times a power
of two, and of all such products it holds the one that uses its bits; so it is taken apart
and put together again without loss.
-/

namespace Telemetry.Double

open Float.Model (Format UnpackedFloat)
open Float.Model.UnpackedFloat

/-- The number that a finite double is. -/
def value? (x : Float) : Option ℚ :=
  match x.toModel.unpack with
  | .zero _ => some 0
  | .finite sign mantissa exponent _ => some (sign.apply mantissa * 2 ^ exponent)
  | .infinity _ | .notANumber => none

/-- The number that a magnitude is. -/
def Magnitude.value (size : Magnitude) : ℚ :=
  size.mantissa * 2 ^ size.exponent

/-- All 53 bits are used, unless the exponent is the least one. -/
structure Magnitude.Canonical (size : Magnitude) : Prop where
  mantissa_lt : size.mantissa < 2 ^ 53
  least : -1074 ≤ size.exponent
  full : size.exponent = -1074 ∨ 2 ^ 52 ≤ size.mantissa

theorem Magnitude.value_nonneg (size : Magnitude) : 0 ≤ size.value :=
  mul_nonneg (Nat.cast_nonneg _) (zpow_nonneg two_pos.le _)

/-- A magnitude as a quotient of natural numbers. -/
theorem Magnitude.value_eq_div (size : Magnitude) :
    size.value = size.mantissa * 2 ^ size.exponent.toNat / 2 ^ (-size.exponent).toNat := by
  have hexponent : (size.exponent.toNat : Int) - (-size.exponent).toNat = size.exponent :=
    Int.toNat_sub_toNat_neg size.exponent
  rw [mul_div_assoc, ← zpow_natCast, ← zpow_natCast, ← zpow_sub₀ two_ne_zero, hexponent]
  rfl

/-! ## Taking apart -/

section

variable (x : Float)

theorem toNat_unpackMantissa :
    (@unpackMantissa Format.binary64 x.toModel.toBits.toBitVec).toNat = fraction x := by
  rw [unpackMantissa, BitVec.toNat_cast, BitVec.extractLsb_toNat]
  rfl

theorem toNat_unpackExponent :
    (@unpackExponent Format.binary64 x.toModel.toBits.toBitVec).toNat = biased x := by
  rw [unpackExponent, BitVec.toNat_cast, BitVec.extractLsb_toNat, Nat.shiftRight_eq_div_pow]
  rfl

theorem ofBitVec_unpackSign :
    Sign.ofBitVec (@unpackSign Format.binary64 x.toModel.toBits.toBitVec) =
      if isNegative x then .negative else .positive := by
  have hsign : (@unpackSign Format.binary64 x.toModel.toBits.toBitVec).toNat =
      x.toBits.toNat / 2 ^ 63 % 2 := by
    rw [unpackSign, BitVec.toNat_cast, BitVec.extractLsb_toNat, Nat.shiftRight_eq_div_pow]
    rfl
  have hbits : x.toBits.toNat < 2 ^ 64 := x.toBits.toNat_lt
  unfold Sign.ofBitVec isNegative
  by_cases hnegative : x.toBits.toNat ≥ 0x8000000000000000
  · rw [if_neg, if_pos (by simpa using hnegative)]
    intro hzero
    rw [hzero, BitVec.toNat_zero] at hsign
    omega
  · rw [if_pos, if_neg (by simpa using hnegative)]
    apply BitVec.eq_of_toNat_eq
    rw [hsign, BitVec.toNat_zero]
    omega

/-- What a double is taken apart into is what its bits say. -/
theorem magnitude?_unpack :
    match x.toModel.unpack with
    | .zero sign => magnitude? x = some ⟨0, -1074⟩ ∧
        sign = if isNegative x then .negative else .positive
    | .finite sign mantissa exponent _ => magnitude? x = some ⟨mantissa, exponent⟩ ∧
        sign = if isNegative x then .negative else .positive
    | .infinity _ | .notANumber => magnitude? x = none := by
  have hmantissa := toNat_unpackMantissa x
  have hexponent := toNat_unpackExponent x
  have hspecial : @unpackExponent Format.binary64 x.toModel.toBits.toBitVec = -1#_ ↔
      biased x = 2047 := by
    rw [← hexponent]
    exact BitVec.toNat_eq
  have hleast : @unpackExponent Format.binary64 x.toModel.toBits.toBitVec = 0#_ ↔
      biased x = 0 := by
    rw [← hexponent]
    exact BitVec.toNat_eq
  have hnone : @unpackMantissa Format.binary64 x.toModel.toBits.toBitVec = 0#_ ↔
      fraction x = 0 := by
    rw [← hmantissa]
    exact BitVec.toNat_eq
  unfold Float.Model.unpack unpack magnitude?
  dsimp only
  rw [ofBitVec_unpackSign x]
  by_cases hinfinite : biased x = 2047
  · rw [if_pos (hspecial.mpr hinfinite), if_pos hinfinite]
    split
    next heq => split at heq <;> cases heq
    next heq => split at heq <;> cases heq
    next => rfl
    next => rfl
  · rw [if_neg (mt hspecial.mp hinfinite), if_neg hinfinite]
    by_cases hsubnormal : biased x = 0
    · rw [if_pos (hleast.mpr hsubnormal), if_pos hsubnormal]
      by_cases hzero : fraction x = 0
      · rw [dif_pos (hnone.mpr hzero), hzero]
        exact ⟨rfl, rfl⟩
      · rw [dif_neg (mt hnone.mp hzero)]
        dsimp only
        rw [hmantissa, hexponent, hsubnormal]
        exact ⟨rfl, rfl⟩
    · rw [if_neg (mt hleast.mp hsubnormal), if_neg hsubnormal]
      dsimp only
      have hfraction : fraction x < 2 ^ 52 := Nat.mod_lt _ (Nat.two_pow_pos 52)
      have hleading : (1#1 ++ @unpackMantissa Format.binary64
          x.toModel.toBits.toBitVec).toNat = 0x10000000000000 + fraction x := by
        rw [BitVec.toNat_append, hmantissa, ← Nat.shiftLeft_add_eq_or_of_lt hfraction]
        rfl
      rw [hleading, hexponent]
      exact ⟨rfl, rfl⟩

theorem value?_eq :
    value? x = (magnitude? x).map fun size => if isNegative x then -size.value else size.value := by
  have hparts := magnitude?_unpack x
  unfold value?
  cases hunpack : x.toModel.unpack with
  | zero sign =>
    rw [hunpack] at hparts
    simp [hparts.1, Magnitude.value]
  | finite sign mantissa exponent hpos =>
    rw [hunpack] at hparts
    rw [hparts.1, hparts.2]
    dsimp only [Option.map_some, Magnitude.value]
    split
    · simp [Sign.apply]
    · simp [Sign.apply]
  | infinity _ =>
    rw [hunpack] at hparts
    rw [hparts]
    rfl
  | notANumber =>
    rw [hunpack] at hparts
    rw [hparts]
    rfl

variable {x} {size : Magnitude}

theorem canonical_of_magnitude? (hsize : magnitude? x = some size) :
    size.Canonical ∧ size.exponent ≤ 971 ∧ size.mantissa % 2 = x.toBits.toNat % 2 := by
  have hfraction : fraction x < 2 ^ 52 := Nat.mod_lt _ (Nat.two_pow_pos 52)
  have hbiased : biased x < 2048 := Nat.mod_lt _ (by decide)
  have hlast : fraction x % 2 = x.toBits.toNat % 2 := Nat.mod_mod_of_dvd _ (by decide)
  unfold magnitude? at hsize
  split at hsize
  · cases hsize
  · split at hsize
    · cases hsize
      exact ⟨⟨by dsimp only; omega, le_rfl, Or.inl rfl⟩, by dsimp only; omega, hlast⟩
    · cases hsize
      exact ⟨⟨by dsimp only; omega, by dsimp only; omega, Or.inr (by dsimp only; omega)⟩,
        by dsimp only; omega, by dsimp only; omega⟩

end

/-! ## Putting together -/

section

variable (sign : Sign) {mantissa : Nat} (hpos : 0 < mantissa)

theorem unpack_subnormal (hlt : mantissa < 2 ^ 52) :
    unpack Format.binary64 (packComponents Format.binary64 sign 0#11 (BitVec.ofNat 52 mantissa)) =
      .finite sign mantissa (-1074) hpos := by
  have hmantissa : (BitVec.ofNat 52 mantissa).toNat = mantissa := Nat.mod_eq_of_lt hlt
  have hsome : BitVec.ofNat 52 mantissa ≠ 0#52 := by
    rw [BitVec.toNat_ne, hmantissa]
    exact hpos.ne'
  unfold unpack
  simp only [unpackMantissa_packComponents, unpackExponent_packComponents,
    unpackSign_packComponents, Sign.ofBitVec_toBitVec]
  rw [if_neg (by decide), if_pos trivial, dif_neg hsome]
  congr 1

theorem unpack_normal {exponent : Nat} (hleast : 0 < exponent) (hmost : exponent < 2047)
    (hfull : 2 ^ 52 ≤ mantissa) (hlt : mantissa < 2 ^ 53) :
    unpack Format.binary64 (packComponents Format.binary64 sign (BitVec.ofNat 11 exponent)
      (BitVec.ofNat 52 mantissa)) = .finite sign mantissa (exponent - 1075 : Int) hpos := by
  have hexponent : (BitVec.ofNat 11 exponent).toNat = exponent := Nat.mod_eq_of_lt (by omega)
  have hfinite : BitVec.ofNat 11 exponent ≠ -1#11 := by
    rw [BitVec.toNat_ne, hexponent]
    exact hmost.ne
  have hnormal : BitVec.ofNat 11 exponent ≠ 0#11 := by
    rw [BitVec.toNat_ne, hexponent]
    exact hleast.ne'
  have hmantissa : (1#1 ++ BitVec.ofNat 52 mantissa).toNat = mantissa := by
    rw [BitVec.toNat_append, ← Nat.shiftLeft_add_eq_or_of_lt (BitVec.isLt _), BitVec.toNat_ofNat,
      Nat.shiftLeft_eq]
    change 1 * 2 ^ 52 + mantissa % 2 ^ 52 = mantissa
    omega
  unfold unpack
  simp only [unpackMantissa_packComponents, unpackExponent_packComponents,
    unpackSign_packComponents, Sign.ofBitVec_toBitVec]
  rw [if_neg hfinite, if_neg hnormal]
  congr 1
  rw [hexponent]
  rfl

end

/-- What is put together from a canonical magnitude is taken apart into it again. -/
theorem unpack_pack (sign : Sign) {mantissa : Nat} {exponent : Int}
    (hcanonical : (Magnitude.mk mantissa exponent).Canonical) (hhigh : exponent ≤ 971)
    (hpos : 0 < mantissa) :
    (Float.Model.pack (.finite sign mantissa exponent hpos)).unpack =
      .finite sign mantissa exponent hpos := by
  obtain ⟨hlt, hleast, hfull⟩ := hcanonical
  dsimp only at hlt hleast hfull
  have hbiased : ¬ 2048 ≤ (exponent + 1023 + 52).toNat + 1 := by omega
  have hbits : mantissa.log2 + 1 = 53 ↔ 2 ^ 52 ≤ mantissa := by
    rw [← Nat.le_log2 hpos.ne']
    have hlog := (Nat.log2_lt hpos.ne').mpr hlt
    omega
  change unpack Format.binary64 (if 2048 ≤ (exponent + 1023 + 52).toNat + 1 then
      packedInfinity Format.binary64 sign
    else if mantissa.log2 + 1 = 53 then
      packComponents Format.binary64 sign (BitVec.ofNat 11 (exponent + 1023 + 52).toNat)
        (BitVec.ofNat 52 mantissa)
    else packComponents Format.binary64 sign 0#11 (BitVec.ofNat 52 mantissa)) = _
  rw [if_neg hbiased]
  by_cases hnormal : 2 ^ 52 ≤ mantissa
  · rw [if_pos (hbits.mpr hnormal), unpack_normal sign hpos (by omega) (by omega) hnormal hlt]
    congr 1
    omega
  · rw [if_neg (mt hbits.mp hnormal)]
    obtain rfl : exponent = -1074 := hfull.resolve_right hnormal
    exact unpack_subnormal sign hpos (Nat.lt_of_not_le hnormal)

/-- The double of a sign and a magnitude. -/
def ofParts (sign : Sign) (mantissa : Nat) (exponent : Int) : Float :=
  .ofModel (.pack (if hzero : mantissa = 0 then .zero sign
    else .finite sign mantissa exponent (Nat.pos_of_ne_zero hzero)))

section

variable {sign : Sign} {mantissa : Nat} {exponent : Int}
  (hcanonical : (Magnitude.mk mantissa exponent).Canonical)

include hcanonical

theorem value?_ofParts (hhigh : exponent ≤ 971) :
    value? (ofParts sign mantissa exponent) = some ((sign.apply mantissa : ℚ) * 2 ^ exponent) ∧
      (ofParts sign mantissa exponent).toBits.toNat % 2 = mantissa % 2 := by
  unfold ofParts
  split
  next hzero =>
    subst hzero
    cases sign with
    | negative => exact ⟨by simp [Sign.apply]; rfl, rfl⟩
    | positive => exact ⟨by simp [Sign.apply]; rfl, rfl⟩
  next hzero =>
    have hpos := Nat.pos_of_ne_zero hzero
    have hunpack := unpack_pack sign hcanonical hhigh hpos
    have hparts := magnitude?_unpack (.ofModel (.pack (.finite sign mantissa exponent hpos)))
    dsimp only at hparts
    rw [hunpack] at hparts
    refine ⟨?_, (canonical_of_magnitude? hparts.1).2.2.symm⟩
    unfold value?
    dsimp only
    rw [hunpack]

theorem isInf_ofParts (hhigh : 971 < exponent) :
    (ofParts sign mantissa exponent).isInf = true := by
  have hfull : 2 ^ 52 ≤ mantissa := hcanonical.full.resolve_left (by dsimp only; omega)
  have hbiased : 2048 ≤ (exponent + 1023 + 52).toNat + 1 := by omega
  have hpos : 0 < mantissa := by omega
  have hpack : pack Format.binary64 (.finite sign mantissa exponent hpos) =
      packedInfinity Format.binary64 sign := if_pos hbiased
  unfold ofParts
  rw [dif_neg hpos.ne']
  change (unpack Format.binary64 (pack Format.binary64 _)).isInf = true
  rw [hpack]
  cases sign with
  | negative => rfl
  | positive => rfl

end

end Telemetry.Double
