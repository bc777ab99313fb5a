import Mathlib.Algebra.Group.Nat.Defs
import Telemetry.Proofs.Utf8
import Telemetry.Schema.Binary

/-!
Values of every description come back from their binary form, whatever follows it. The
form has no marks at which a reader could find its way again, so the law is stated for
octets in front of any others: only then do the parts of a list or a record go through
one after another.

The form has a fixed width for numbers and lengths, so a value has to fit these widths.
-/

namespace Telemetry

namespace Binary

/-- The reader takes these octets for this value and leaves what follows them. -/
def Takes {α : Type} (read : Reader α) (octets : List UInt8) (value : α) : Prop :=
  ∀ rest, read (octets ++ rest) = .ok (value, rest)

theorem takes_word (count : Nat) {n : Nat} (hn : n < 256 ^ count) :
    Takes (readWord count) (writeWord count n) n := by
  induction count generalizing n with
  | zero =>
    intro rest
    rw [Nat.lt_one_iff.mp hn]
    rfl
  | succ count ih =>
    intro rest
    have hhigh : n / 256 < 256 ^ count :=
      Nat.div_lt_of_lt_mul (by rwa [Nat.pow_succ, Nat.mul_comm] at hn)
    have hlow : (UInt8.ofNat n).toNat = n % 256 := UInt8.toNat_ofNat'
    rw [writeWord, List.cons_append, readWord, ih hhigh rest, hlow]
    exact congrArg (fun m => Except.ok (m, rest)) (Nat.mod_add_div n 256)

theorem takes_int {n : Int} (hlow : -0x8000000000000000 ≤ n) (hhigh : n < 0x8000000000000000) :
    Takes readInt (writeInt n) n := by
  intro rest
  have hword : (n % 0x10000000000000000).toNat < 256 ^ 8 := by omega
  have hback : Int.bmod (n % 0x10000000000000000).toNat 0x10000000000000000 = n := by
    rw [Int.toNat_of_nonneg (by omega)]
    exact (Int.emod_bmod n 0x10000000000000000).trans
      (Int.bmod_eq_of_le (by omega) (by omega))
  rw [writeInt, readInt, takes_word 8 hword rest]
  exact congrArg (fun m => Except.ok (m, rest)) hback

theorem takes_text {s : String} (hs : (Utf8.encode s).length < 0x10000000000000000) :
    Takes readText (writeText s) s := by
  intro rest
  rw [writeText, readText, List.append_assoc, takes_word 8 hs]
  dsimp only [Except.bind, bind]
  rw [if_neg (by rw [List.length_append]; omega), List.take_left, List.drop_left,
    Utf8.decode_encode]

theorem takes_flag (b : Bool) : Takes readFlag (writeFlag b) b := by
  intro rest
  cases b with
  | false => rfl
  | true => rfl

theorem takes_level (level : Level) : Takes readLevel (writeWord 4 level.index) level := by
  intro rest
  cases level with
  | info => rfl
  | warn => rfl
  | error => rfl
  | fatal => rfl

section

variable {α : Type} {read : Reader α} {write : α → List UInt8}

theorem takes_optional {value : Option α}
    (hitem : ∀ item ∈ value, Takes read (write item) item) :
    Takes (readOptional read) (writeOptional write value) value := by
  intro rest
  cases value with
  | none => rfl
  | some item =>
    have hread := hitem item rfl rest
    show (read (write item ++ rest)).bind (fun read => .ok (some read.1, read.2)) = _
    rw [hread]
    rfl

theorem takes_many {values : List α} (hitem : ∀ item ∈ values, Takes read (write item) item) :
    Takes (readMany read values.length) (values.flatMap write) values := by
  induction values with
  | nil => exact fun rest => rfl
  | cons value values ih =>
    obtain ⟨hfirst, hrest⟩ := List.forall_mem_cons.mp hitem
    intro rest
    rw [List.flatMap_cons, List.append_assoc, List.length_cons, readMany, hfirst]
    dsimp only [Except.bind, bind]
    rw [ih hrest]
    rfl

theorem takes_list {values : List α} (hlength : values.length < 0x10000000000000000)
    (hitem : ∀ item ∈ values, Takes read (write item) item) :
    Takes (readList read) (writeList write values) values := by
  intro rest
  rw [writeList, readList, List.append_assoc, takes_word 8 hlength]
  exact takes_many hitem rest

end

end Binary

open Binary

mutual

/-- Numbers and lengths fit 64 bits. -/
def Schema.Fits : {α : Type} → Schema α → α → Prop
  | _, .text, s => (Utf8.encode s).length < 0x10000000000000000
  | _, .integer, n => -0x8000000000000000 ≤ n ∧ n < 0x8000000000000000
  | _, .optional item, value => ∀ inner ∈ value, item.Fits inner
  | _, .list item, values =>
    values.length < 0x10000000000000000 ∧ ∀ inner ∈ values, item.Fits inner
  | _, .record _ fields view _ _ _, value => fields.Fits (view value)
  | _, .flag, _ | _, .word, _ | _, .level, _ => True

def Fields.Fits : {β δ : Type} → Fields β δ → β → Prop
  | _, _, .done, _ => True
  | _, _, .field _ shape _ rest, (value, values) => shape.Fits value ∧ rest.Fits values

end

mutual

def Schema.decideFits : {α : Type} → (schema : Schema α) → (value : α) →
    Decidable (schema.Fits value)
  | _, .text, s => inferInstanceAs (Decidable ((Utf8.encode s).length < _))
  | _, .integer, _ => inferInstanceAs (Decidable (_ ∧ _))
  | _, .optional _, none => .isTrue nofun
  | _, .optional item, some inner =>
    have := item.decideFits inner
    decidable_of_iff (item.Fits inner) (by simp [Schema.Fits])
  | _, .list item, values =>
    have := fun inner => item.decideFits inner
    inferInstanceAs (Decidable (values.length < _ ∧ ∀ inner ∈ values, item.Fits inner))
  | _, .record _ fields view _ _ _, value => fields.decideFits (view value)
  | _, .flag, _ | _, .word, _ | _, .level, _ => .isTrue trivial

def Fields.decideFits : {β δ : Type} → (fields : Fields β δ) → (values : β) →
    Decidable (fields.Fits values)
  | _, _, .done, _ => .isTrue trivial
  | _, _, .field _ shape _ rest, (value, values) =>
    have := shape.decideFits value
    have := rest.decideFits values
    inferInstanceAs (Decidable (shape.Fits value ∧ rest.Fits values))

end

instance {α : Type} (schema : Schema α) (value : α) : Decidable (schema.Fits value) :=
  schema.decideFits value

mutual

theorem Schema.takes_binary : {α : Type} → (schema : Schema α) → {value : α} →
    schema.Fits value → Takes schema.readBinary (schema.writeBinary value) value
  | _, .text, _, hfits => takes_text hfits
  | _, .flag, b, _ => takes_flag b
  | _, .integer, _, hfits => takes_int hfits.1 hfits.2
  | _, .word, w, _ => fun rest => by
    have hword : w.toNat < 256 ^ 4 := w.toNat_lt
    rw [Schema.writeBinary, Schema.readBinary, takes_word 4 hword rest]
    exact congrArg (fun w => Except.ok (w, rest)) UInt32.ofNat_toNat
  | _, .level, level, _ => takes_level level
  | _, .optional item, _, hfits =>
    takes_optional fun inner hinner => item.takes_binary (hfits inner hinner)
  | _, .list item, _, hfits =>
    takes_list hfits.1 fun inner hinner => item.takes_binary (hfits.2 inner hinner)
  | _, .record _ fields view make make_view _, value, hfits => fun rest => by
    show (fields.readBinary (fields.writeBinary (view value) ++ rest)).bind _ = _
    rw [fields.takes_binary hfits rest]
    exact congrArg (fun a => Except.ok (a, rest)) (make_view value)

theorem Fields.takes_binary : {β δ : Type} → (fields : Fields β δ) → {values : β} →
    fields.Fits values → Takes fields.readBinary (fields.writeBinary values) values
  | _, _, .done, _, _ => fun _ => rfl
  | _, _, .field _ shape _ fields, (value, values), hfits => fun rest => by
    show (shape.readBinary ((shape.writeBinary value ++ fields.writeBinary values) ++ rest)).bind
      _ = _
    rw [List.append_assoc, shape.takes_binary hfits.1]
    show (fields.readBinary (fields.writeBinary values ++ rest)).bind _ = _
    rw [fields.takes_binary hfits.2]
    rfl

end

end Telemetry
