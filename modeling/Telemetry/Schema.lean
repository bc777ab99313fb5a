import Telemetry.Report

/-!
Descriptions of the types that are sent: from one description both formats get
their writer and their reader, so where a type has only one, neither the order of the
fields nor their kinds can drift apart. A record is described through its fields as
nested pairs.
-/

namespace Telemetry

/-- Whether a field may be left out, and what then stands for it. Off the end of
a list only a `defaulted` field may be missing. -/
inductive Presence (α : Type)
  | required
  | omittable (absent : α)
  | defaulted (absent : α)

mutual

inductive Schema : Type → Type 1
  | text : Schema String
  | flag : Schema Bool
  | integer : Schema Int
  | word : Schema UInt32
  | level : Schema Level
  | optional {α : Type} (item : Schema α) : Schema (Option α)
  | list {α : Type} (item : Schema α) : Schema (List α)
  | record {α β δ : Type} (name : String) (fields : Fields β δ) (view : α → β)
      (make : β → α) (make_view : ∀ a, make (view a) = a)
      (view_make : ∀ b, view (make b) = b) : Schema α

/-- Fields in declared order. The first index is what they hold together, the
second what is known of them while an object is being read. -/
inductive Fields : Type → Type → Type 1
  | done : Fields Unit Unit
  | field {α β δ : Type} (name : String) (shape : Schema α) (presence : Presence α)
      (rest : Fields β δ) : Fields (α × β) (Option α × δ)

end

namespace Fields

def count : {β δ : Type} → Fields β δ → Nat
  | _, _, .done => 0
  | _, _, .field _ _ _ rest => rest.count + 1

def names : {β δ : Type} → Fields β δ → List String
  | _, _, .done => []
  | _, _, .field name _ _ rest => name :: rest.names

end Fields

end Telemetry
