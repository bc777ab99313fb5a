/-!
What a computation that may fail tells by ending well.
-/

namespace Telemetry

/-- A computation that ends well has had a good result on the way. -/
theorem ok_of_bind_ok {ε α β : Type} {first : Except ε α} {next : α → Except ε β} {result : β}
    (hok : first >>= next = .ok result) : ∃ value, first = .ok value ∧ next value = .ok result := by
  cases first with
  | ok value => exact ⟨value, rfl, hok⟩
  | error refusal => cases hok

end Telemetry
