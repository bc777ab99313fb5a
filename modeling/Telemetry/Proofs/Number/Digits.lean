import Mathlib.Data.Nat.Digits.Lemmas
import Mathlib.Tactic.Ring
import Telemetry.Number.Double

/-!
Digits by their places, and as many leading ones as 64 bits hold. What is left over makes
little difference, because it is behind a number that is nearly as large as it can be.
-/

namespace Telemetry

/-- The number that digits are by their places, the last one for ones. -/
def places (digits : List Nat) : Nat :=
  Nat.ofDigits 10 digits.reverse

theorem places_append (left right : List Nat) :
    places (left ++ right) = places left * 10 ^ right.length + places right := by
  rw [places, List.reverse_append, Nat.ofDigits_append, List.length_reverse, Nat.add_comm,
    Nat.mul_comm]
  rfl

theorem places_cons (digit : Nat) (rest : List Nat) :
    places (digit :: rest) = digit * 10 ^ rest.length + places rest := by
  have hsplit := places_append [digit] rest
  rwa [show places [digit] = digit from Nat.ofDigits_singleton] at hsplit

theorem places_lt {digits : List Nat} (hdigits : ∀ digit ∈ digits, digit < 10) :
    places digits < 10 ^ digits.length := by
  rw [places, ← List.length_reverse]
  exact Nat.ofDigits_lt_base_pow_length (by decide)
    fun digit hdigit => hdigits digit (List.mem_reverse.mp hdigit)

namespace Double

/-- The number with as many of the digits appended as were kept. Some are left over only if
it is nearly as large as 64 bits hold. -/
structure Accumulated (start : Nat) (digits : List Nat) (number kept left : Nat) : Prop where
  length : kept + left = digits.length
  low : number * 10 ^ left ≤ start * 10 ^ digits.length + places digits
  high : start * 10 ^ digits.length + places digits < (number + 1) * 10 ^ left
  least : start * 10 ^ kept ≤ number
  most : number < (start + 1) * 10 ^ kept
  full : left = 0 ∨ 2 ^ 60 ≤ number
  fits : start < 2 ^ 64 → number < 2 ^ 64

theorem accumulated {digits : List Nat} (hdigits : ∀ digit ∈ digits, digit < 10) (start : Nat) :
    ∃ kept, Accumulated start digits (accumulate start digits).1 kept
      (accumulate start digits).2 := by
  induction digits generalizing start with
  | nil => exact ⟨0, rfl, by simp [accumulate], by simp [accumulate, places], by simp [accumulate],
      by simp [accumulate], Or.inl rfl, id⟩
  | cons digit rest ih =>
    rw [List.forall_mem_cons] at hdigits
    obtain ⟨hdigit, hrest⟩ := hdigits
    have hplaces : start * 10 ^ (rest.length + 1) + places (digit :: rest) =
        (start * 10 + digit) * 10 ^ rest.length + places rest := by
      rw [places_cons]
      ring
    rw [accumulate]
    split
    next hfits =>
      obtain ⟨kept, hkept⟩ := ih hrest (start * 10 + digit)
      refine ⟨kept + 1, ?_, ?_, ?_, ?_, ?_, hkept.full, fun _ => hkept.fits hfits⟩
      case _ => rw [List.length_cons, ← hkept.length]; omega
      case _ => rw [List.length_cons, hplaces]; exact hkept.low
      case _ => rw [List.length_cons, hplaces]; exact hkept.high
      case _ =>
        refine le_trans ?_ hkept.least
        rw [pow_succ', ← mul_assoc]
        exact Nat.mul_le_mul_right _ (Nat.le_add_right _ _)
      case _ =>
        refine hkept.most.trans_le ?_
        rw [pow_succ', ← mul_assoc]
        exact Nat.mul_le_mul_right _ (by omega)
    next hlarge =>
      refine ⟨0, Nat.zero_add _, ?_, ?_, by simp, by simp, Or.inr (by dsimp only; omega), id⟩
      · exact Nat.le_add_right _ _
      · have hlt := places_lt (List.forall_mem_cons.mpr ⟨hdigit, hrest⟩)
        rw [Nat.succ_mul]
        exact Nat.add_lt_add_left hlt _

/-- As long as all fits, all digits are kept. -/
theorem accumulate_eq {digits : List Nat} {start : Nat}
    (hfits : start * 10 ^ digits.length + places digits < 2 ^ 64) :
    accumulate start digits = (start * 10 ^ digits.length + places digits, 0) := by
  induction digits generalizing start with
  | nil => simp [accumulate, places]
  | cons digit rest ih =>
    have hplaces : start * 10 ^ (rest.length + 1) + places (digit :: rest) =
        (start * 10 + digit) * 10 ^ rest.length + places rest := by
      rw [places_cons]
      ring
    rw [List.length_cons, hplaces] at hfits ⊢
    have hmore : start * 10 + digit ≤ (start * 10 + digit) * 10 ^ rest.length :=
      Nat.le_mul_of_pos_right _ (Nat.pow_pos (by decide))
    rw [accumulate, if_pos (by omega), ih hfits]

end Double

end Telemetry
