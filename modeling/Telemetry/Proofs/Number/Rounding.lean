import Telemetry.Proofs.Number.Binary

/-!
How a number becomes a double. All bits behind the last one that there is room for are
summed up in two: the first of them, and whether there is another. These decide to which
neighbour the mantissa goes. So a double that is rounded is a nearest one, and its error is
a small part of the number, or the number is tiny.
-/

namespace Telemetry

/-- Of the whole numbers a nearest one, and of two such the even one. -/
structure NearestWhole (n : Nat) (y : ℚ) : Prop where
  near : |(n : ℚ) - y| ≤ 1 / 2
  even : |(n : ℚ) - y| = 1 / 2 → n % 2 = 0

namespace NearestWhole

theorem of_lt {n : Nat} {y : ℚ} (hnear : |(n : ℚ) - y| < 1 / 2) : NearestWhole n y :=
  ⟨hnear.le, fun heq => absurd heq hnear.ne⟩

variable {n : Nat} {y : ℚ} (hnearest : NearestWhole n y)

include hnearest

/-- Another whole number is farther, or it is a neighbour and this one is even. -/
theorem lt_or_neighbour {k : Int} (hk : k ≠ n) :
    |(n : ℚ) - y| < |(k : ℚ) - y| ∨
      |(n : ℚ) - y| = |(k : ℚ) - y| ∧ n % 2 = 0 ∧ (k = n + 1 ∨ k = n - 1) := by
  have happart : (1 : ℚ) ≤ |(k : ℚ) - n| := by
    have hone : (1 : ℤ) ≤ |k - n| := Int.one_le_abs (sub_ne_zero.mpr hk)
    exact_mod_cast hone
  have htriangle : |(k : ℚ) - n| ≤ |(k : ℚ) - y| + |(n : ℚ) - y| := by
    rw [abs_sub_comm (n : ℚ) y]
    exact abs_sub_le _ _ _
  have hnear := hnearest.near
  rcases lt_or_ge |(n : ℚ) - y| |(k : ℚ) - y| with hlt | hle
  · exact Or.inl hlt
  · have hhalf : |(n : ℚ) - y| = 1 / 2 := by linarith
    have hone : |(k : ℚ) - n| = 1 := by linarith
    refine Or.inr ⟨by linarith, hnearest.even hhalf, ?_⟩
    have hone' : |k - (n : ℤ)| = 1 := by exact_mod_cast hone
    rcases (abs_eq one_pos.le).mp hone' with hup | hdown
    · exact Or.inl (by omega)
    · exact Or.inr (by omega)

theorem le (k : Int) : |(n : ℚ) - y| ≤ |(k : ℚ) - y| := by
  by_cases hk : k = n
  · rw [hk]
    exact le_rfl
  · rcases hnearest.lt_or_neighbour hk with hlt | ⟨heq, _⟩
    · exact hlt.le
    · exact heq.le

theorem unique {m : Nat} (hother : NearestWhole m y) : m = n := by
  by_contra hne
  have hk : (m : Int) ≠ n := fun heq => hne (Int.ofNat_inj.mp heq)
  rcases hnearest.lt_or_neighbour hk with hlt | ⟨_, heven, hneighbour⟩
  · exact absurd (hother.le n) (not_le.mpr hlt)
  · rcases hother.lt_or_neighbour (Ne.symm hk) with hlt' | ⟨_, heven', _⟩
    · exact absurd (hnearest.le m) (not_le.mpr hlt')
    · omega

/-- Rounding does not pass a whole number. -/
theorem le_whole {k : Nat} (hk : y ≤ k) : n ≤ k := by
  have hhigh := (abs_le.mp hnearest.near).2
  have hlt : (n : ℚ) < (k + 1 : Nat) := by
    push_cast
    linarith
  exact Nat.le_of_lt_succ (Nat.cast_lt.mp hlt)

theorem whole_le {k : Nat} (hk : k ≤ y) : k ≤ n := by
  have hlow := (abs_le.mp hnearest.near).1
  have hlt : (k : ℚ) < (n + 1 : Nat) := by
    push_cast
    linarith
  exact Nat.le_of_lt_succ (Nat.cast_lt.mp hlt)

end NearestWhole

namespace Double

open Float.Model (Format UnpackedFloat totalExponent)
open Float.Model.UnpackedFloat

/-! ## Bits that there is no room for -/

/-- A mantissa with two more bits stands for this number: the round bit for a half, the
sticky bit for all that is behind it. -/
structure Holds (extended : ExtendedMantissa) (y : ℚ) : Prop where
  low : extended.mantissa ≤ y
  high : y < extended.mantissa + 1
  round : extended.roundBit = true ↔ extended.mantissa + 1 / 2 ≤ y
  sticky : extended.stickyBit = true ↔
    y ≠ extended.mantissa ∧ y ≠ extended.mantissa + 1 / 2

namespace Holds

variable {extended : ExtendedMantissa} {y : ℚ} (hholds : Holds extended y)

include hholds

theorem nearestWhole : NearestWhole extended.roundedMantissa y := by
  obtain ⟨mantissa, roundBit, stickyBit⟩ := extended
  obtain ⟨hlow, hhigh, hround, hsticky⟩ := hholds
  dsimp only at hlow hhigh hround hsticky
  cases roundBit with
  | false =>
    have hbelow : y < mantissa + 1 / 2 := by simpa using hround
    refine NearestWhole.of_lt ?_
    have hdown : (ExtendedMantissa.mk mantissa false stickyBit).roundedMantissa = mantissa := by
      cases stickyBit with
      | false => rfl
      | true => rfl
    rw [hdown]
    exact abs_lt.mpr ⟨by linarith, by linarith⟩
  | true =>
    have habove : mantissa + 1 / 2 ≤ y := hround.mp rfl
    cases stickyBit with
    | false =>
      have hhalf : y = mantissa + 1 / 2 := by
        by_contra hother
        exact Bool.noConfusion (hsticky.mpr ⟨by linarith, hother⟩)
      change NearestWhole (mantissa + mantissa % 2) y
      rcases Nat.mod_two_eq_zero_or_one mantissa with heven | hodd
      · rw [heven, add_zero, hhalf]
        exact ⟨by norm_num, fun _ => heven⟩
      · rw [hodd, hhalf]
        refine ⟨?_, fun _ => by omega⟩
        push_cast
        norm_num
    | true =>
      have hother := (hsticky.mp rfl).2
      have hmore : mantissa + 1 / 2 < y := lt_of_le_of_ne habove hother.symm
      refine NearestWhole.of_lt ?_
      change |((mantissa + 1 : Nat) : ℚ) - y| < 1 / 2
      push_cast
      exact abs_lt.mpr ⟨by linarith, by linarith⟩

/-- The last bit of the mantissa becomes the round bit, and what was behind it sticks. -/
theorem shiftRightOne : Holds extended.shiftRightOne (y / 2) := by
  obtain ⟨mantissa, roundBit, stickyBit⟩ := extended
  obtain ⟨hlow, hhigh, hround, hsticky⟩ := hholds
  dsimp only at hlow hhigh hround hsticky
  have hbehind : (roundBit || stickyBit) = true ↔ y ≠ mantissa := by
    rw [Bool.or_eq_true, hround, hsticky]
    constructor
    · rintro (habove | ⟨hother, _⟩)
      · linarith
      · exact hother
    · intro hother
      by_cases hhalf : y = mantissa + 1 / 2
      · exact Or.inl hhalf.ge
      · exact Or.inr ⟨hother, hhalf⟩
  obtain ⟨half, hparity⟩ := Nat.even_or_odd' mantissa
  have hhalf : mantissa / 2 = half := by omega
  rcases hparity with heven | hodd
  · have hmantissa : (mantissa : ℚ) = 2 * half := by exact_mod_cast heven
    have hbit : mantissa % 2 = 0 := by omega
    constructor
    all_goals simp only [ExtendedMantissa.shiftRightOne, hhalf, hbit]
    case low => linarith
    case high => linarith
    case round => simp; linarith
    case sticky =>
      rw [hbehind]
      exact ⟨fun hother => ⟨fun heq => hother (by linarith), fun heq => by linarith⟩,
        fun hother heq => hother.1 (by linarith)⟩
  · have hmantissa : (mantissa : ℚ) = 2 * half + 1 := by exact_mod_cast hodd
    have hbit : mantissa % 2 = 1 := by omega
    constructor
    all_goals simp only [ExtendedMantissa.shiftRightOne, hhalf, hbit]
    case low => linarith
    case high => linarith
    case round => simp; linarith
    case sticky =>
      rw [hbehind]
      exact ⟨fun hother => ⟨fun heq => by linarith, fun heq => hother (by linarith)⟩,
        fun hother heq => hother.2 (by linarith)⟩

theorem shiftRight (count : Nat) : Holds (extended >>> count) (y / 2 ^ count) := by
  change Holds (count.repeat ExtendedMantissa.shiftRightOne extended) _
  induction count with
  | zero => simpa [Nat.repeat] using hholds
  | succ count ih =>
    have hnext := ih.shiftRightOne
    rwa [div_div, ← pow_succ] at hnext

end Holds

/-- Nothing is behind the mantissa. -/
theorem holds_exact (mantissa : Nat) :
    Holds (.ofMantissaAndAccuracy mantissa .exact) mantissa := by
  constructor
  case low => exact le_rfl
  case high => exact lt_add_one _
  case round => simp [ExtendedMantissa.ofMantissaAndAccuracy]
  case sticky => simp [ExtendedMantissa.ofMantissaAndAccuracy]

section

variable {left unit : Nat} (hunit : 0 < unit)

include hunit

theorem half_le_part : (1 / 2 : ℚ) ≤ left / unit ↔ unit ≤ 2 * left := by
  rw [div_le_div_iff₀ two_pos (Nat.cast_pos.mpr hunit), one_mul, mul_comm]
  exact_mod_cast Iff.rfl

theorem part_le_half : (left / unit : ℚ) ≤ 1 / 2 ↔ 2 * left ≤ unit := by
  rw [div_le_div_iff₀ (Nat.cast_pos.mpr hunit) two_pos, one_mul, mul_comm]
  exact_mod_cast Iff.rfl

end

/-- A quotient with what its rest says. -/
theorem holds_quotient (dividend : Nat) {divisor : Nat} (hdivisor : 0 < divisor) :
    Holds (.ofMantissaAndAccuracy (dividend / divisor)
      (accuracyOfFraction (dividend % divisor) divisor)) (dividend / divisor) := by
  have hleft : dividend % divisor < divisor := Nat.mod_lt _ hdivisor
  have hquotient : (dividend / divisor : ℚ) =
      (dividend / divisor : Nat) + (dividend % divisor : Nat) / divisor := by
    have hparts : ((divisor * (dividend / divisor) + dividend % divisor : Nat) : ℚ) = dividend :=
      congrArg Nat.cast (Nat.div_add_mod dividend divisor)
    rw [← hparts]
    push_cast
    field_simp
  rw [hquotient]
  generalize dividend / divisor = quotient
  generalize dividend % divisor = left at hleft
  have hpositive : (0 : ℚ) < divisor := Nat.cast_pos.mpr hdivisor
  have hpart : (left / divisor : ℚ) < 1 := (div_lt_one hpositive).mpr (Nat.cast_lt.mpr hleft)
  have hpart' : (0 : ℚ) ≤ left / divisor := div_nonneg left.cast_nonneg hpositive.le
  have hround := @half_le_part left divisor hdivisor
  have hround' := @part_le_half left divisor hdivisor
  unfold accuracyOfFraction
  split
  next hnone =>
    subst hnone
    simpa using holds_exact quotient
  next hsome =>
    have hmore : (0 : ℚ) < left / divisor :=
      div_pos (Nat.cast_pos.mpr (Nat.pos_of_ne_zero hsome)) hpositive
    generalize (left / divisor : ℚ) = part at *
    cases hcompare : compare (2 * left) divisor with
    | lt =>
      have hlt := Nat.compare_eq_lt.mp hcompare
      have hhalf : part < 1 / 2 := lt_of_not_ge fun hge => hlt.not_ge (hround.mp hge)
      constructor
      all_goals simp only [ExtendedMantissa.ofMantissaAndAccuracy]
      case low => linarith
      case high => linarith
      case round => simp; linarith
      case sticky => exact ⟨fun _ => ⟨by linarith, by linarith⟩, fun _ => trivial⟩
    | eq =>
      have heq := Nat.compare_eq_eq.mp hcompare
      have hhalf : part = 1 / 2 := le_antisymm (hround'.mpr heq.le) (hround.mpr heq.ge)
      constructor
      all_goals simp only [ExtendedMantissa.ofMantissaAndAccuracy]
      case low => linarith
      case high => linarith
      case round => simp; linarith
      case sticky => simp [hhalf]
    | gt =>
      have hgt := Nat.compare_eq_gt.mp hcompare
      have hhalf : 1 / 2 < part := lt_of_not_ge fun hle => hgt.not_ge (hround'.mp hle)
      constructor
      all_goals simp only [ExtendedMantissa.ofMantissaAndAccuracy]
      case low => linarith
      case high => linarith
      case round => simp; linarith
      case sticky => exact ⟨fun _ => ⟨by linarith, by linarith⟩, fun _ => trivial⟩

/-! ## Rounding -/

theorem targetExponent_eq (mantissa : Nat) (exponent : Int) :
    Format.binary64.targetExponent (totalExponent mantissa exponent) =
      max (mantissa.log2 + exponent - 52) (-1074) := by
  change max (_ - 53) (-1074) = _
  unfold totalExponent
  omega

theorem shiftToTargetExponent_eq (mantissa : Nat) (exponent : Int) (accuracy : Accuracy)
    {shift : Nat}
    (hshift : (max (mantissa.log2 + exponent - 52) (-1074) - exponent).toNat = shift) :
    shiftToTargetExponent Format.binary64 mantissa exponent accuracy =
      (ExtendedMantissa.ofMantissaAndAccuracy mantissa accuracy >>> shift, exponent + shift) := by
  unfold shiftToTargetExponent shiftToExponent
  dsimp only
  rw [targetExponent_eq, hshift]

/-- The double is this number, rounded to a count of units so that the count has 53 bits,
or a unit is as small as can be. -/
structure RoundsTo (x : Float) (v : ℚ) (count : Nat) (place : Int) : Prop where
  least : -1074 ≤ place
  full : place = -1074 ∨ 2 ^ 52 ≤ v / 2 ^ place
  nearest : NearestWhole count (v / 2 ^ place)
  value : value? x = some ((count : ℚ) * 2 ^ place)
  even : count % 2 = 0 → x.toBits.toNat % 2 = 0

/-- What is left when a count of units has been brought to 53 bits once more. -/
structure Carried (count : Nat) (place : Int) (mantissa : Nat) (exponent : Int) : Prop where
  mantissa_lt : mantissa < 2 ^ 53
  place_le : place ≤ exponent
  value : (mantissa : ℚ) * 2 ^ exponent = count * 2 ^ place
  many : 2 ^ 52 ≤ count → 2 ^ 52 ≤ mantissa
  few : exponent = place ∨ 2 ^ 52 ≤ count
  even : count % 2 = 0 → mantissa % 2 = 0

/-- Only rounding up to the next power of two makes a carry. -/
theorem carried_shiftToTargetExponent {count : Nat} {place : Int} (hcount : count ≤ 2 ^ 53)
    (hplace : -1074 ≤ place) :
    let shifted := shiftToTargetExponent Format.binary64 count place .exact
    Carried count place shifted.1.mantissa shifted.2 := by
  intro shifted
  rcases hcount.lt_or_eq with hlt | rfl
  · have hlog : count.log2 ≤ 52 := by
      rcases Nat.eq_zero_or_pos count with rfl | hpos
      · decide
      · exact Nat.le_of_lt_succ ((Nat.log2_lt hpos.ne').mpr hlt)
    have hstays : (max (count.log2 + place - 52) (-1074) - place).toNat = 0 := by omega
    have hshifted : shifted = (.ofMantissaAndAccuracy count .exact, place + 0) :=
      shiftToTargetExponent_eq count place .exact hstays
    rw [hshifted, add_zero]
    exact ⟨hlt, le_rfl, rfl, id, Or.inl rfl, id⟩
  · have honce : (max ((2 ^ 53 : Nat).log2 + place - 52) (-1074) - place).toNat = 1 := by
      rw [Nat.log2_two_pow]
      omega
    have hshifted : shifted =
        (ExtendedMantissa.ofMantissaAndAccuracy (2 ^ 53) .exact >>> 1, place + 1) :=
      shiftToTargetExponent_eq (2 ^ 53) place .exact honce
    have hmantissa : shifted.1.mantissa = 2 ^ 52 := by
      rw [hshifted]
      rfl
    rw [hmantissa, hshifted]
    refine ⟨by decide, by simp, ?_, fun _ => le_rfl, Or.inr (by decide), fun _ => by decide⟩
    rw [zpow_add₀ two_ne_zero, zpow_one]
    push_cast
    ring

theorem mantissa_ofMantissaAndAccuracy (mantissa : Nat) (accuracy : Accuracy) :
    (ExtendedMantissa.ofMantissaAndAccuracy mantissa accuracy).mantissa = mantissa := by
  cases accuracy with
  | exact => rfl
  | inexact place =>
    cases place with
    | lt => rfl
    | eq => rfl
    | gt => rfl

/-- The double is the number, rounded. -/
def Rounded (x : Float) (v : ℚ) : Prop :=
  ∃ count place, RoundsTo x v count place

/-- The double is the number, rounded, or an infinity because there are none that large. -/
def RoundedOrLarge (x : Float) (v : ℚ) : Prop :=
  x.isInf = true ∧ 2 ^ 1024 * (1 - 1 / 2 ^ 53) ≤ v ∨ Rounded x v

section

variable {mantissa : Nat} {exponent : Int} {accuracy : Accuracy} {y : ℚ}
  (hholds : Holds (.ofMantissaAndAccuracy mantissa accuracy) y)
  (hlow : exponent ≤ Format.binary64.targetExponent (totalExponent mantissa exponent))

include hholds hlow

/-- The first shift leaves 53 bits before the round bit, or a unit is as small as can be. -/
theorem exists_shifted :
    ∃ extended place,
      shiftToTargetExponent Format.binary64 mantissa exponent accuracy = (extended, place) ∧
      -1074 ≤ place ∧ Holds extended (y * 2 ^ exponent / 2 ^ place) ∧
      y * 2 ^ exponent / 2 ^ place < 2 ^ 53 ∧
      (place = -1074 ∨ 2 ^ 52 ≤ y * 2 ^ exponent / 2 ^ place) := by
  rw [targetExponent_eq] at hlow
  obtain ⟨shift, hshift⟩ := Int.eq_ofNat_of_zero_le (sub_nonneg.mpr hlow)
  have hvalue : y * 2 ^ exponent / 2 ^ (exponent + shift : Int) = y / 2 ^ shift := by
    rw [zpow_add₀ two_ne_zero, zpow_natCast]
    field_simp
  have hmantissa := mantissa_ofMantissaAndAccuracy mantissa accuracy
  have hfrom : (mantissa : ℚ) ≤ y := hmantissa ▸ hholds.low
  have hbelow : y < mantissa + 1 := by
    have hhigh := hholds.high
    rwa [hmantissa] at hhigh
  refine ⟨_, _, shiftToTargetExponent_eq mantissa exponent accuracy (congrArg Int.toNat hshift),
    by rw [Int.toNat_natCast]; omega, ?_⟩
  rw [Int.toNat_natCast, hvalue]
  refine ⟨hholds.shiftRight shift, ?_, ?_⟩
  · have hbits : mantissa + 1 ≤ 2 ^ (53 + shift) :=
      (Nat.lt_log2_self).trans_le (Nat.pow_le_pow_right two_pos (by omega))
    have hcast : (mantissa + 1 : ℚ) ≤ 2 ^ 53 * 2 ^ shift := by
      rw [← pow_add]
      exact_mod_cast hbits
    rw [div_lt_iff₀ (pow_pos two_pos _)]
    linarith
  · by_cases hleast : exponent + shift = -1074
    · exact Or.inl hleast
    · have hlog : mantissa.log2 = 52 + shift := by omega
      have hbits : 2 ^ (52 + shift) ≤ mantissa := by
        rw [← hlog]
        exact Nat.log2_self_le (by rintro rfl; rw [Nat.log2_zero] at hlog; omega)
      have hcast : (2 ^ 52 * 2 ^ shift : ℚ) ≤ mantissa := by
        rw [← pow_add]
        exact_mod_cast hbits
      rw [le_div_iff₀ (pow_pos two_pos _)]
      exact Or.inr (hcast.trans hfrom)

theorem rounded_roundWithAccuracy :
    RoundedOrLarge (.ofModel (.pack
      (roundWithAccuracy Format.binary64 .positive mantissa exponent accuracy)))
      (y * 2 ^ exponent) := by
  obtain ⟨extended, place, hshifted, hleast, hextended, hbelow, hfull⟩ :=
    exists_shifted hholds hlow
  have hnearest := hextended.nearestWhole
  have hx : Float.ofModel (.pack
        (roundWithAccuracy Format.binary64 .positive mantissa exponent accuracy)) =
      ofParts .positive
        (shiftToTargetExponent Format.binary64 extended.roundedMantissa place .exact).1.mantissa
        (shiftToTargetExponent Format.binary64 extended.roundedMantissa place .exact).2 := by
    unfold roundWithAccuracy
    rw [hshifted]
    rfl
  generalize Float.ofModel (.pack
    (roundWithAccuracy Format.binary64 .positive mantissa exponent accuracy)) = x at hx ⊢
  generalize extended.roundedMantissa = count at hnearest hx
  generalize y * 2 ^ exponent = v at hextended hbelow hfull hnearest ⊢
  have hcount : count ≤ 2 ^ 53 := hnearest.le_whole (by exact_mod_cast hbelow.le)
  have hcarried := carried_shiftToTargetExponent hcount hleast
  dsimp only at hcarried
  generalize (shiftToTargetExponent Format.binary64 count place .exact).1.mantissa = mantissa'
    at hx hcarried
  generalize (shiftToTargetExponent Format.binary64 count place .exact).2 = exponent'
    at hx hcarried
  have hmany : place = -1074 ∨ 2 ^ 52 ≤ count :=
    hfull.imp_right fun hmost => hnearest.whole_le (by exact_mod_cast hmost)
  have hcanonical : (Magnitude.mk mantissa' exponent').Canonical := by
    refine ⟨hcarried.mantissa_lt, hleast.trans hcarried.place_le, ?_⟩
    rcases hmany with hplace | hmost
    · rcases hcarried.few with hsame | hmost
      · exact Or.inl (hsame.trans hplace)
      · exact Or.inr (hcarried.many hmost)
    · exact Or.inr (hcarried.many hmost)
  rcases lt_or_ge 971 exponent' with hlarge | hfinite
  · refine Or.inl ⟨hx ▸ isInf_ofParts hcanonical hlarge, ?_⟩
    have hmantissa : (2 ^ 52 : ℚ) ≤ mantissa' := by
      exact_mod_cast hcanonical.full.resolve_left (by dsimp only; omega)
    have hunit : (2 : ℚ) ^ place ≤ 2 ^ exponent' :=
      zpow_le_zpow_right₀ one_le_two hcarried.place_le
    have hexponent : (2 : ℚ) ^ 972 ≤ 2 ^ exponent' := by
      rw [← zpow_natCast]
      exact zpow_le_zpow_right₀ one_le_two (by omega)
    have hpos : (0 : ℚ) < 2 ^ place := zpow_pos two_pos _
    have hv : (count - 1 / 2 : ℚ) * 2 ^ place ≤ v := by
      rw [← le_div_iff₀ hpos]
      linarith [(abs_le.mp hnearest.near).2]
    have hproduct : (2 : ℚ) ^ 52 * 2 ^ exponent' ≤ count * 2 ^ place := by
      rw [← hcarried.value]
      exact mul_le_mul_of_nonneg_right hmantissa (zpow_nonneg two_pos.le _)
    have hwhole : (2 : ℚ) ^ 1024 = 2 ^ 52 * 2 ^ 972 := by rw [← pow_add]
    rw [sub_mul] at hv
    rw [hwhole]
    generalize (2 : ℚ) ^ 972 = least at hexponent ⊢
    linarith
  · obtain ⟨hvalue, hlast⟩ := @value?_ofParts .positive _ _ hcanonical hfinite
    rw [← hx] at hvalue hlast
    refine Or.inr ⟨count, place, hleast, hfull, hnearest, ?_, ?_⟩
    · rw [hvalue, ← hcarried.value]
      rfl
    · intro heven
      rw [hlast]
      exact hcarried.even heven

end

/-! ## Nearest doubles -/

/-- No finite double is nearer to the number, and of two that are equally near this is the
one whose last bit is zero. -/
def Nearest (x : Float) (v : ℚ) : Prop :=
  ∃ q, value? x = some q ∧ (∀ y r, value? y = some r → |q - v| ≤ |r - v|) ∧
    ∀ y r, value? y = some r → |r - v| = |q - v| → r ≠ q → x.toBits.toNat % 2 = 0

/-- A double that is the number itself. -/
theorem Nearest.of_value? {x : Float} {v : ℚ} (hvalue : value? x = some v) : Nearest x v := by
  refine ⟨v, hvalue, fun y r _ => ?_, fun y r _ htie hother => ?_⟩
  · rw [sub_self, abs_zero]
    exact abs_nonneg _
  · rw [sub_self, abs_zero, abs_eq_zero, sub_eq_zero] at htie
    exact absurd htie hother

/-- A double is a count of units, odd only if its last bit is one, or it is small beside
them. -/
theorem whole_or_small {x : Float} {r : ℚ} (hvalue : value? x = some r) (place : Int) :
    (∃ count : Int, r = count * 2 ^ place ∧ (count % 2 = 1 → x.toBits.toNat % 2 = 1)) ∨
      place ≠ -1074 ∧ |r| < 2 ^ 52 * 2 ^ place := by
  rw [value?_eq, Option.map_eq_some_iff] at hvalue
  obtain ⟨⟨mantissa, exponent⟩, hsize, hr⟩ := hvalue
  obtain ⟨⟨hlt, hleast, -⟩, -, hlast⟩ := canonical_of_magnitude? hsize
  dsimp only at hlt hleast hlast
  rcases le_or_gt place exponent with hle | hgt
  · obtain ⟨shift, hshift⟩ := Int.eq_ofNat_of_zero_le (sub_nonneg.mpr hle)
    have hvalue : (Magnitude.mk mantissa exponent).value =
        (mantissa * 2 ^ shift : Nat) * 2 ^ place := by
      rw [Magnitude.value, show exponent = shift + place by omega, zpow_add₀ two_ne_zero,
        zpow_natCast]
      push_cast
      ring
    have hodd : (mantissa * 2 ^ shift) % 2 = 1 → x.toBits.toNat % 2 = 1 := by
      intro hodd
      cases shift with
      | zero =>
        rw [pow_zero, mul_one] at hodd
        rw [← hlast, hodd]
      | succ shift =>
        rw [pow_succ, ← mul_assoc, Nat.mul_mod_left] at hodd
        cases hodd
    left
    rw [hvalue] at hr
    generalize mantissa * 2 ^ shift = units at hr hodd
    split at hr
    · exact ⟨-units, by rw [← hr]; push_cast; ring, fun hcount => hodd (by omega)⟩
    · exact ⟨units, by rw [← hr]; push_cast; ring, fun hcount => hodd (by omega)⟩
  · refine Or.inr ⟨by omega, ?_⟩
    have habs : |r| = mantissa * 2 ^ exponent := by
      rw [← hr]
      split
      · rw [abs_neg, abs_of_nonneg (Magnitude.value_nonneg _)]
        rfl
      · rw [abs_of_nonneg (Magnitude.value_nonneg _)]
        rfl
    have hmantissa : (mantissa : ℚ) < 2 ^ 53 := by exact_mod_cast hlt
    have hunit : (2 : ℚ) ^ exponent * 2 ≤ 2 ^ place := by
      rw [← zpow_add_one₀ two_ne_zero]
      exact zpow_le_zpow_right₀ one_le_two (by omega)
    have hpos : (0 : ℚ) < 2 ^ exponent := zpow_pos two_pos _
    have hproduct : (mantissa : ℚ) * 2 ^ exponent < 2 ^ 53 * 2 ^ exponent :=
      mul_lt_mul_of_pos_right hmantissa hpos
    rw [habs]
    linarith

namespace RoundsTo

variable {x : Float} {v : ℚ} {count : Nat} {place : Int} (hrounds : RoundsTo x v count place)

/-- Distances are counted in units. -/
theorem abs_sub_eq (v z : ℚ) (place : Int) :
    |z * 2 ^ place - v| = |z - v / 2 ^ place| * 2 ^ place := by
  have hpos : (0 : ℚ) < 2 ^ place := zpow_pos two_pos _
  rw [← abs_of_pos hpos, ← abs_mul, abs_of_pos hpos, sub_mul, div_mul_cancel₀ v hpos.ne']

include hrounds

/-- What is small beside the units is farther. -/
theorem lt_of_small {r : ℚ} (hplace : place ≠ -1074) (hsmall : |r| < 2 ^ 52 * 2 ^ place) :
    |count * 2 ^ place - v| < |r - v| := by
  have hpos : (0 : ℚ) < 2 ^ place := zpow_pos two_pos _
  have hmany := hrounds.full.resolve_left hplace
  have hleast := hrounds.nearest.le (2 ^ 52)
  have hpower : |((2 ^ 52 : Int) : ℚ) - v / 2 ^ place| = v / 2 ^ place - 2 ^ 52 := by
    rw [abs_sub_comm, Int.cast_pow, Int.cast_ofNat, abs_of_nonneg (sub_nonneg.mpr hmany)]
  have hv : v / 2 ^ place * 2 ^ place = v := div_mul_cancel₀ v hpos.ne'
  calc |count * 2 ^ place - v| = |(count : ℚ) - v / 2 ^ place| * 2 ^ place :=
        abs_sub_eq v count place
    _ ≤ (v / 2 ^ place - 2 ^ 52) * 2 ^ place :=
        mul_le_mul_of_nonneg_right (hleast.trans hpower.le) hpos.le
    _ = v - 2 ^ 52 * 2 ^ place := by rw [sub_mul, hv]
    _ < v - r := by linarith [(abs_lt.mp hsmall).2]
    _ ≤ |r - v| := by
        rw [abs_sub_comm]
        exact le_abs_self _

/-- Another double is farther, or this one is even and the other one odd. -/
theorem lt_or_tie {y : Float} {r : ℚ} (hvalue : value? y = some r)
    (hother : r ≠ count * 2 ^ place) :
    |count * 2 ^ place - v| < |r - v| ∨
      |count * 2 ^ place - v| = |r - v| ∧ x.toBits.toNat % 2 = 0 ∧ y.toBits.toNat % 2 = 1 := by
  have hpos : (0 : ℚ) < 2 ^ place := zpow_pos two_pos _
  rcases whole_or_small hvalue place with ⟨k, rfl, hodd⟩ | ⟨hplace, hsmall⟩
  · have hk : k ≠ count := by
      rintro rfl
      exact hother (by push_cast; rfl)
    rw [abs_sub_eq, abs_sub_eq]
    rcases hrounds.nearest.lt_or_neighbour hk with hlt | ⟨heq, heven, hneighbour⟩
    · exact Or.inl (mul_lt_mul_of_pos_right hlt hpos)
    · exact Or.inr ⟨congrArg (· * 2 ^ place) heq, hrounds.even heven, hodd (by omega)⟩
  · exact Or.inl (hrounds.lt_of_small hplace hsmall)

theorem near : Nearest x v := by
  refine ⟨_, hrounds.value, fun y r hvalue => ?_, fun y r hvalue htie hother => ?_⟩
  · by_cases hother : r = count * 2 ^ place
    · rw [hother]
    · rcases hrounds.lt_or_tie hvalue hother with hlt | ⟨heq, _⟩
      · exact hlt.le
      · exact heq.le
  · rcases hrounds.lt_or_tie hvalue hother with hlt | ⟨_, heven, _⟩
    · exact absurd htie hlt.ne'
    · exact heven

/-- There is one nearest number, whether or not zero has a sign. -/
theorem value_unique {y : Float} (hnearest : Nearest y v) : value? y = value? x := by
  obtain ⟨r, hvalue, hleast, htie⟩ := hnearest
  rw [hvalue, hrounds.value]
  by_contra hne
  have hother : r ≠ count * 2 ^ place := fun heq => hne (congrArg some heq)
  have hle := hleast x _ hrounds.value
  rcases hrounds.lt_or_tie hvalue hother with hlt | ⟨heq, _, hodd⟩
  · exact absurd hle (not_le.mpr hlt)
  · have heven := htie x _ hrounds.value heq hother.symm
    omega

theorem close (hv : 0 ≤ v) :
    |count * 2 ^ place - v| ≤ v / 2 ^ 53 + 2 ^ (-1075 : Int) := by
  have hpos : (0 : ℚ) < 2 ^ place := zpow_pos two_pos _
  have hhalf : |count * 2 ^ place - v| ≤ 2 ^ place / 2 := by
    rw [abs_sub_eq]
    have hnear := mul_le_mul_of_nonneg_right hrounds.nearest.near hpos.le
    linarith
  rcases hrounds.full with hleast | hmany
  · have hunit : (2 : ℚ) ^ place / 2 = 2 ^ (-1075 : Int) := by
      rw [hleast, show (-1075 : Int) = -1074 - 1 by decide, zpow_sub_one₀ two_ne_zero,
        div_eq_mul_inv]
    have hnonneg : 0 ≤ v / 2 ^ 53 := div_nonneg hv (by norm_num)
    linarith
  · have hunit : 2 ^ 52 * 2 ^ place ≤ v := (le_div_iff₀ hpos).mp hmany
    have htiny : (0 : ℚ) < 2 ^ (-1075 : Int) := zpow_pos two_pos _
    linarith

end RoundsTo

end Double

end Telemetry
