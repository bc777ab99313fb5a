import Telemetry.Duration
import Telemetry.Proofs.Number.Rounding

/-!
Spans of time that are given as a number of seconds. The number is a double, so it is what
is left of its digits in 53 bits; from there on it is taken to the nearest nanosecond.
-/

namespace Telemetry

/-- A finite number of seconds that is not negative and fits 64 bits. Minus zero is not
negative. -/
structure Seconds where
  number : Float
  value : ℚ
  finite : Double.value? number = some value
  nonnegative : 0 ≤ value
  below : value < 0x10000000000000000

namespace Double

/-- A double that is not negative is its magnitude, and with a sign it is zero. -/
theorem magnitude?_of_value? {x : Float} {r : ℚ} (hvalue : value? x = some r) (hr : 0 ≤ r) :
    ∃ size, magnitude? x = some size ∧ size.value = r ∧
      ¬ (isNegative x = true ∧ size.mantissa ≠ 0) := by
  rw [value?_eq, Option.map_eq_some_iff] at hvalue
  obtain ⟨size, hsize, hvalue⟩ := hvalue
  have hnonneg := size.value_nonneg
  have hpower : (0 : ℚ) < 2 ^ size.exponent := zpow_pos two_pos _
  refine ⟨size, hsize, ?_⟩
  split at hvalue
  next hsign =>
    have hzero : size.value = 0 := by linarith
    refine ⟨by linarith, fun hboth => hboth.2 ?_⟩
    rw [Magnitude.value, mul_eq_zero] at hzero
    exact Nat.cast_eq_zero.mp (hzero.resolve_right hpower.ne')
  next hsign => exact ⟨hvalue, fun hboth => hsign hboth.1⟩

theorem value?_of_magnitude? {x : Float} {size : Magnitude} (hsize : magnitude? x = some size)
    (hsign : ¬ (isNegative x = true ∧ size.mantissa ≠ 0)) : value? x = some size.value := by
  rw [value?_eq, hsize, Option.map_some]
  split
  next hnegative =>
    have hzero : size.value = 0 := by
      rw [Magnitude.value, of_not_not fun hsome => hsign ⟨hnegative, hsome⟩, Nat.cast_zero,
        zero_mul]
    rw [hzero, neg_zero]
  next => rfl

/-- Below two to the power of 64 no double is nearer to it than this one, which is odd. -/
theorem le_of_lt_two_pow {x : Float} {r : ℚ} (hvalue : value? x = some r) (hlt : r < 2 ^ 64) :
    r ≤ 2 ^ 64 - 2 ^ 11 ∧ (r = 2 ^ 64 - 2 ^ 11 → x.toBits.toNat % 2 = 1) := by
  have hunit : (2 : ℚ) ^ (11 : Int) = 2 ^ 11 := zpow_ofNat 2 11
  rcases whole_or_small hvalue 11 with ⟨count, rfl, hodd⟩ | ⟨-, hsmall⟩
  · rw [hunit] at hlt ⊢
    have hmost : count ≤ 2 ^ 53 - 1 := by
      have hcast : (count : ℚ) < (2 ^ 53 : Int) := by
        push_cast
        linarith
      exact Int.le_sub_one_of_lt (Int.cast_lt.mp hcast)
    have hcast : (count : ℚ) ≤ (2 ^ 53 - 1 : Int) := Int.cast_le.mpr hmost
    push_cast at hcast
    refine ⟨by linarith, fun hequal => hodd ?_⟩
    have hlast : (count : ℚ) = (2 ^ 53 - 1 : Int) := by
      push_cast
      linarith
    rw [Int.cast_inj.mp hlast]
    rfl
  · rw [hunit] at hsmall
    have hhigh := (abs_lt.mp hsmall).2
    exact ⟨by linarith, fun hequal => by linarith⟩

theorem exists_value? {mantissa : Nat} {exponent : Int}
    (hcanonical : (Magnitude.mk mantissa exponent).Canonical) (hhigh : exponent ≤ 971) :
    ∃ x, value? x = some ((mantissa : ℚ) * 2 ^ exponent) := by
  refine ⟨ofParts .positive mantissa exponent, ?_⟩
  rw [(value?_ofParts hcanonical hhigh).1]
  rfl

/-- A number is rounded to less than two to the power of 64 up to the middle between it and
the double before it. -/
theorem Nearest.lt_iff {x : Float} {r v : ℚ} (hnearest : Nearest x v)
    (hvalue : value? x = some r) : r < 2 ^ 64 ↔ v < 2 ^ 64 - 2 ^ 10 := by
  obtain ⟨q, hq, hleast, htie⟩ := hnearest
  rw [hvalue, Option.some.injEq] at hq
  subst hq
  obtain ⟨top, htop⟩ := @exists_value? (2 ^ 52) 12
    ⟨by decide, by decide, Or.inr le_rfl⟩ (by decide)
  obtain ⟨below, hbelow⟩ := @exists_value? (2 ^ 53 - 1) 11
    ⟨by decide, by decide, Or.inr (by decide)⟩ (by decide)
  norm_num at htop hbelow
  constructor
  · intro hlt
    by_contra hlarge
    rw [not_lt] at hlarge
    obtain ⟨hmost, hodd⟩ := le_of_lt_two_pow hvalue hlt
    have hnear := hleast top _ htop
    have hdistance : |r - v| = v - r := by
      rw [abs_sub_comm]
      exact abs_of_nonneg (by linarith)
    rw [hdistance] at hnear
    rcases le_or_gt v (2 ^ 64) with hle | hgt
    · have hdistance' : |18446744073709551616 - v| = 18446744073709551616 - v :=
        abs_of_nonneg (by linarith)
      have heven := htie top _ htop (by rw [hdistance', hdistance]; linarith) (by linarith)
      have hlast := hodd (by linarith)
      omega
    · have hdistance' : |18446744073709551616 - v| = v - 18446744073709551616 := by
        rw [abs_sub_comm]
        exact abs_of_nonneg (by linarith)
      linarith
  · intro hsmall
    by_contra hlarge
    rw [not_lt] at hlarge
    have hnear := hleast below _ hbelow
    have hdistance : |r - v| = r - v := abs_of_nonneg (by linarith)
    rw [hdistance] at hnear
    rcases abs_cases (18446744073709549568 - v) with ⟨habs, -⟩ | ⟨habs, -⟩
    · linarith
    · linarith

end Double

namespace Duration

/-- The duration is a nearest one to so many seconds, and of two such ones the even one. -/
structure Nearest (d : Duration) (secs : ℚ) : Prop where
  valid : d.Valid
  nearest : NearestWhole d.totalNanos (secs * nanosPerSec)

/-- There is one such duration. -/
theorem Nearest.unique {d other : Duration} {secs : ℚ} (hnearest : d.Nearest secs)
    (hother : other.Nearest secs) : other = d := by
  have htotal := hnearest.nearest.unique hother.nearest
  have hnanos := hnearest.valid.2
  have hnanos' := hother.valid.2
  obtain ⟨secs, nanos⟩ := d
  obtain ⟨secs', nanos'⟩ := other
  unfold totalNanos nanosPerSec at *
  dsimp only at *
  rw [mk.injEq]
  omega

section

variable (size : Double.Magnitude)

/-- The exact count of nanoseconds, as the quotient that is rounded. -/
theorem value_mul_eq :
    size.value * nanosPerSec =
      ((size.mantissa * nanosPerSec) <<< size.exponent.toNat : Nat) /
        ((1 <<< (-size.exponent).toNat : Nat) : ℚ) := by
  rw [size.value_eq_div, Nat.shiftLeft_eq, Nat.shiftLeft_eq]
  push_cast
  ring

/-- No whole number of nanoseconds is nearer, and of two that are equally near it is the
even one. -/
theorem roundedNanos_near :
    NearestWhole (roundedNanos size) (size.value * nanosPerSec) := by
  rw [value_mul_eq]
  unfold roundedNanos
  generalize (size.mantissa * nanosPerSec) <<< size.exponent.toNat = scaled
  have hunit : 0 < 1 <<< (-size.exponent).toNat := by
    rw [Nat.shiftLeft_eq, Nat.one_mul]
    exact Nat.two_pow_pos _
  generalize 1 <<< (-size.exponent).toNat = unit at hunit ⊢
  dsimp only
  have hleft : scaled % unit < unit := Nat.mod_lt _ hunit
  have hscaled : unit * (scaled / unit) + scaled % unit = scaled := Nat.div_add_mod _ _
  generalize scaled / unit = below at hscaled ⊢
  generalize scaled % unit = left at hscaled hleft ⊢
  have hpositive : (0 : ℚ) < unit := Nat.cast_pos.mpr hunit
  have hquotient : (scaled : ℚ) / unit = below + left / unit := by
    rw [← hscaled]
    push_cast
    field_simp
  rw [hquotient]
  split
  next hup =>
    have hpart : (left / unit : ℚ) < 1 := (div_lt_one hpositive).mpr (Nat.cast_lt.mpr hleft)
    have hhalf : (1 / 2 : ℚ) ≤ left / unit := (Double.half_le_part hunit).mpr (by omega)
    have hdistance : |((below + 1 : Nat) : ℚ) - (below + left / unit)| = 1 - left / unit := by
      rw [Nat.cast_add_one, add_sub_add_left_eq_sub, abs_of_nonneg (sub_nonneg.mpr hpart.le)]
    refine ⟨by linarith, fun hequal => ?_⟩
    have htied : 2 * left ≤ unit := (Double.part_le_half hunit).mp (by linarith)
    omega
  next hdown =>
    have hhalf : (left / unit : ℚ) ≤ 1 / 2 := (Double.part_le_half hunit).mpr (by omega)
    have hdistance : |(below : ℚ) - (below + left / unit)| = left / unit := by
      rw [sub_add_cancel_left, abs_neg, abs_of_nonneg (div_nonneg left.cast_nonneg hpositive.le)]
    refine ⟨hdistance.trans_le hhalf, fun hequal => ?_⟩
    have htied : unit ≤ 2 * left := (Double.half_le_part hunit).mp (hdistance ▸ hequal).ge
    omega

variable {size}

theorem roundedNanos_le {secs : Nat} (hle : size.value ≤ secs) :
    roundedNanos size ≤ secs * nanosPerSec := by
  refine (roundedNanos_near size).le_whole ?_
  push_cast
  exact mul_le_mul_of_nonneg_right hle (Nat.cast_nonneg _)

theorem le_roundedNanos {secs : Nat} (hle : secs ≤ size.value) :
    secs * nanosPerSec ≤ roundedNanos size := by
  refine (roundedNanos_near size).whole_le ?_
  push_cast
  exact mul_le_mul_of_nonneg_right hle (Nat.cast_nonneg _)

variable {x : Float} {r : ℚ}

/-- Below two to the power of 64 nothing is rounded up to it. -/
theorem roundedNanos_lt_iff (hvalue : Double.value? x = some size.value) :
    roundedNanos size < 0x10000000000000000 * nanosPerSec ↔
      size.value < 0x10000000000000000 := by
  constructor
  · intro hlt
    by_contra hlarge
    have hge := @le_roundedNanos size 0x10000000000000000 (by exact_mod_cast not_lt.mp hlarge)
    exact absurd hlt (Nat.not_lt.mpr hge)
  · intro hlt
    have hmost := (Double.le_of_lt_two_pow hvalue (by norm_num; exact hlt)).1
    have hle := @roundedNanos_le size 0xfffffffffffff800 (by norm_num at hmost ⊢; exact hmost)
    exact lt_of_le_of_lt hle (by decide)

theorem nearest_of_lt (hvalue : Double.value? x = some size.value)
    (hlt : size.value < 0x10000000000000000) :
    Nearest ⟨roundedNanos size / nanosPerSec, roundedNanos size % nanosPerSec⟩ size.value := by
  have hfits := (roundedNanos_lt_iff hvalue).mpr hlt
  refine ⟨⟨Nat.div_lt_of_lt_mul (Nat.mul_comm _ _ ▸ hfits), Nat.mod_lt _ (by decide)⟩, ?_⟩
  rw [totalNanos, Nat.div_add_mod']
  exact roundedNanos_near size

section

variable (hvalue : Double.value? x = some r)

include hvalue

/-- A number of seconds that fits gives the nearest duration. -/
theorem ofSeconds_of_lt (hr : 0 ≤ r) (hlt : r < 0x10000000000000000) :
    ∃ d, ofSeconds x = .ok d ∧ d.Nearest r := by
  obtain ⟨size, hsize, rfl, hsign⟩ := Double.magnitude?_of_value? hvalue hr
  refine ⟨_, ?_, nearest_of_lt hvalue hlt⟩
  unfold ofSeconds
  rw [hsize]
  dsimp only
  rw [if_neg hsign, if_pos ((roundedNanos_lt_iff hvalue).mpr hlt)]

/-- From two to the power of 64 on there is no duration. -/
theorem ofSeconds_of_large (hlarge : 0x10000000000000000 ≤ r) :
    ofSeconds x = .error .tooLarge := by
  obtain ⟨size, hsize, rfl, hsign⟩ :=
    Double.magnitude?_of_value? hvalue (le_trans (by norm_num) hlarge)
  unfold ofSeconds
  rw [hsize]
  dsimp only
  rw [if_neg hsign, if_neg (mt (roundedNanos_lt_iff hvalue).mp (not_lt.mpr hlarge))]

end

/-- A duration is made of a number of seconds only. -/
theorem exists_of_ofSeconds {d : Duration} (hseconds : ofSeconds x = .ok d) :
    ∃ r, Double.value? x = some r ∧ 0 ≤ r ∧ r < 0x10000000000000000 ∧ d.Nearest r := by
  have hread := hseconds
  unfold ofSeconds at hread
  split at hread
  next =>
    split at hread
    · cases hread
    · cases hread
  next size hsize =>
    split at hread
    next => cases hread
    next hsign =>
      have hvalue := Double.value?_of_magnitude? hsize hsign
      rcases lt_or_ge size.value 0x10000000000000000 with hlt | hlarge
      · obtain ⟨own, hown, hnearest⟩ := ofSeconds_of_lt hvalue size.value_nonneg hlt
        rw [hseconds] at hown
        cases hown
        exact ⟨_, hvalue, size.value_nonneg, hlt, hnearest⟩
      · rw [ofSeconds_of_large hvalue hlarge] at hseconds
        cases hseconds

/-- No number of seconds gives one of the longest durations. -/
theorem totalNanos_of_ofSeconds {d : Duration} (hseconds : ofSeconds x = .ok d) :
    d.totalNanos ≤ 0xfffffffffffff800 * nanosPerSec := by
  obtain ⟨r, hvalue, -, hlt, hnearest⟩ := exists_of_ofSeconds hseconds
  have hmost := (Double.le_of_lt_two_pow hvalue (by norm_num; exact hlt)).1
  refine hnearest.nearest.le_whole ?_
  push_cast
  exact mul_le_mul_of_nonneg_right (by norm_num at hmost ⊢; exact hmost) (Nat.cast_nonneg _)

end

end Duration

namespace Seconds

variable (seconds : Seconds)

/-- The magnitude that the number is written with. -/
def size : Double.Magnitude :=
  (Double.magnitude? seconds.number).getD ⟨0, 0⟩

/-- The duration that is nearest. -/
def duration : Duration :=
  let nanos := Duration.roundedNanos seconds.size
  ⟨nanos / Duration.nanosPerSec, nanos % Duration.nanosPerSec⟩

theorem duration_nearest : seconds.duration.Nearest seconds.value := by
  obtain ⟨size, hsize, hvalue, -⟩ :=
    Double.magnitude?_of_value? seconds.finite seconds.nonnegative
  have hsame : seconds.size = size := by
    rw [Seconds.size, hsize]
    rfl
  unfold duration
  rw [hsame, ← hvalue]
  exact Duration.nearest_of_lt (hvalue ▸ seconds.finite) (hvalue ▸ seconds.below)

/-- Doubles of one value, as zero and minus zero, are one number of seconds. -/
theorem ofSeconds_of_value? {x : Float} (hvalue : Double.value? x = some seconds.value) :
    Duration.ofSeconds x = .ok seconds.duration := by
  obtain ⟨d, hread, hnearest⟩ :=
    Duration.ofSeconds_of_lt hvalue seconds.nonnegative seconds.below
  rw [hread, seconds.duration_nearest.unique hnearest]

end Seconds

end Telemetry
