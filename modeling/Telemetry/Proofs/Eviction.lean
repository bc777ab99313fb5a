import Mathlib.Algebra.Order.Floor.Div
import Mathlib.Data.Nat.Count
import Mathlib.Data.Set.Card
import Mathlib.Data.Set.Finite.List
import Mathlib.Order.Interval.Finset.Nat
import Mathlib.Tactic.Ring
import Telemetry.Proofs.History

/-!
How likely each slot of a full buffer is to be given up. The upper half of a product says
which slot a draw falls into, and the lower half how far behind the start of that slot's
block of 64 bits. Draws are accepted in a zone at the front of the block. The zone is a whole
number of times as long as two neighbouring products are apart, so that as many products lie
in it in one block as in another, wherever the first of them stands: each slot has one range
of accepted draws, and all ranges are equally long.

The loop of draws does not change this. What it settles on depends on the first accepted
draw alone, and a draw is refused for all slots or for none. Scripts of draws are counted by
their length here, beside those that settle nothing, of which each further draw leaves at
most half.
-/

namespace Telemetry

namespace Eviction

/-! ## The zone -/

/-- How often the number of slots can be doubled within 64 bits. -/
def leadingZeros (slots : Nat) : Nat :=
  63 - slots.log2

section

variable {slots : Nat}

/-- The zone is as many multiples of the slots long as fit by doubling. -/
theorem zone_add_one (hslots : 0 < slots) : zone slots + 1 = slots * 2 ^ leadingZeros slots := by
  have hshift : slots <<< (63 - slots.log2) = slots * 2 ^ leadingZeros slots :=
    Nat.shiftLeft_eq slots _
  have hpositive : 0 < slots * 2 ^ leadingZeros slots := Nat.mul_pos hslots (Nat.two_pow_pos _)
  rw [zone, hshift]
  exact Nat.sub_add_cancel hpositive

theorem two_pow_log2_mul (hslots : 0 < slots) (hword : slots < 0x10000000000000000) :
    2 ^ slots.log2 * 2 ^ leadingZeros slots = 0x8000000000000000 := by
  have hlog : slots.log2 < 64 := (Nat.log2_lt (Nat.ne_of_gt hslots)).mpr hword
  rw [← pow_add, leadingZeros, Nat.add_sub_cancel' (Nat.le_of_lt_succ hlog)]
  rfl

/-- The zone takes up at least half of a block, and it fits 64 bits. -/
theorem zone_range (hslots : 0 < slots) (hword : slots < 0x10000000000000000) :
    0x8000000000000000 ≤ slots * 2 ^ leadingZeros slots ∧
      slots * 2 ^ leadingZeros slots < 0x10000000000000000 := by
  have hlow : 2 ^ slots.log2 ≤ slots := Nat.log2_self_le (Nat.ne_of_gt hslots)
  have hhigh : slots < 2 ^ slots.log2 * 2 := by
    rw [← pow_succ]
    exact Nat.lt_log2_self
  have hblock := two_pow_log2_mul hslots hword
  have hshare : 0 < 2 ^ leadingZeros slots := Nat.two_pow_pos _
  constructor
  · rw [← hblock]
    exact Nat.mul_le_mul_right _ hlow
  · calc slots * 2 ^ leadingZeros slots
        < 2 ^ slots.log2 * 2 * 2 ^ leadingZeros slots := Nat.mul_lt_mul_of_pos_right hhigh hshare
      _ = 2 ^ slots.log2 * 2 ^ leadingZeros slots * 2 := by ring
      _ = 0x10000000000000000 := by rw [hblock]

theorem accepts_iff (hslots : 0 < slots) (draw : UInt64) :
    accepts slots draw = true ↔
      draw.toNat * slots % 0x10000000000000000 < slots * 2 ^ leadingZeros slots := by
  rw [accepts, decide_eq_true_iff, ← zone_add_one hslots, Nat.lt_succ_iff]

/-- The draws that give a slot are those whose product lies in the zone of its block. -/
theorem accepted_slot_iff (hslots : 0 < slots) (hword : slots < 0x10000000000000000)
    (draw : UInt64) (place : Nat) :
    (accepts slots draw = true ∧ slot slots draw = place) ↔
      place * 0x10000000000000000 ≤ slots * draw.toNat ∧
        slots * draw.toNat < place * 0x10000000000000000 + slots * 2 ^ leadingZeros slots := by
  have hzone := (zone_range hslots hword).2
  rw [accepts_iff hslots, slot, Nat.mul_comm slots draw.toNat]
  generalize draw.toNat * slots = product at *
  generalize slots * 2 ^ leadingZeros slots = length at *
  omega

end

/-! ## Counting draws -/

/-- As many words lie in a range as numbers do. -/
theorem ncard_between (first count : Nat) (hfits : first + count ≤ 0x10000000000000000) :
    {draw : UInt64 | first ≤ draw.toNat ∧ draw.toNat < first + count}.ncard = count := by
  have hinjective : Function.Injective UInt64.toNat := fun _ _ => UInt64.toNat_inj.mp
  have himage : UInt64.toNat '' {draw : UInt64 | first ≤ draw.toNat ∧ draw.toNat < first + count} =
      (Finset.Ico first (first + count) : Finset Nat) := by
    ext n
    simp only [Set.mem_image, Set.mem_ofPred_eq, Finset.coe_Ico, Set.mem_Ico]
    constructor
    · rintro ⟨draw, hdraw, rfl⟩
      exact hdraw
    · rintro ⟨hlow, hhigh⟩
      have hback : (UInt64.ofNat n).toNat = n := UInt64.toNat_ofNat_of_lt' (by
        show n < 0x10000000000000000
        omega)
      exact ⟨UInt64.ofNat n, by rw [hback]; exact ⟨hlow, hhigh⟩, hback⟩
  rw [← Set.ncard_image_of_injective _ hinjective, himage, Set.ncard_coe_finset, Nat.card_Ico,
    Nat.add_sub_cancel_left]

theorem card_draws : Nat.card UInt64 = 0x10000000000000000 := by
  have hall : {draw : UInt64 | 0 ≤ draw.toNat ∧ draw.toNat < 0 + 0x10000000000000000} =
      Set.univ := by
    ext draw
    simp only [Set.mem_ofPred_eq, Set.mem_univ, iff_true]
    exact ⟨Nat.zero_le _, by rw [Nat.zero_add]; exact draw.toNat_lt⟩
  rw [← Set.ncard_univ, ← hall]
  exact ncard_between 0 0x10000000000000000 (Nat.le_refl _)

theorem finite_draws : Finite UInt64 :=
  Nat.finite_of_card_ne_zero (by rw [card_draws]; decide)

section

variable {slots : Nat}

/-- The multiples of the slots in a range that is a whole number of them long start with the
first one that is not before the range, and their number is that of the length. -/
theorem multiples_between (hslots : 0 < slots) (start share n : Nat) :
    (start ⌈/⌉ slots ≤ n ∧ n < start ⌈/⌉ slots + share) ↔
      start ≤ slots * n ∧ slots * n < start + slots * share := by
  have hfirst (m : Nat) : start ⌈/⌉ slots ≤ m ↔ start ≤ slots * m := ceilDiv_le_iff_le_mul hslots
  refine and_congr (hfirst n) ?_
  rcases Nat.lt_or_ge n share with hsmall | hlarge
  · have hproduct : slots * n < slots * share := Nat.mul_lt_mul_of_pos_left hsmall hslots
    omega
  · have hproduct : slots * share ≤ slots * n := Nat.mul_le_mul_left slots hlarge
    have hbefore := hfirst (n - share)
    rw [Nat.mul_sub] at hbefore
    omega

/-- Each slot has one range of accepted draws, all of one length. -/
theorem ncard_slot (hslots : 0 < slots) (hword : slots < 0x10000000000000000) (place : Nat)
    (hplace : place < slots) :
    {draw : UInt64 | accepts slots draw = true ∧ slot slots draw = place}.ncard =
      2 ^ leadingZeros slots := by
  have hzone := (zone_range hslots hword).2
  let first := place * 0x10000000000000000 ⌈/⌉ slots
  have hrange : {draw : UInt64 | accepts slots draw = true ∧ slot slots draw = place} =
      {draw | first ≤ draw.toNat ∧ draw.toNat < first + 2 ^ leadingZeros slots} := by
    ext draw
    rw [Set.mem_ofPred_eq, Set.mem_ofPred_eq, accepted_slot_iff hslots hword,
      multiples_between hslots]
  -- Behind the range of the last slot there is no draw left, and none is missing in it.
  have hfits : first + 2 ^ leadingZeros slots ≤ 0x10000000000000000 := by
    have hblocks : (place + 1) * 0x10000000000000000 ≤ slots * 0x10000000000000000 :=
      Nat.mul_le_mul_right _ hplace
    have hfirst : first ≤ 0x10000000000000000 :=
      (ceilDiv_le_iff_le_mul hslots).mpr (Nat.mul_le_mul_right _ (Nat.le_of_lt hplace))
    by_contra hbeyond
    have hlate : 0x10000000000000000 < first + 2 ^ leadingZeros slots := by omega
    have hlast := ((multiples_between hslots (place * 0x10000000000000000)
      (2 ^ leadingZeros slots) 0x10000000000000000).mp ⟨hfirst, hlate⟩).2
    omega
  rw [hrange, ncard_between first _ hfits]

theorem ncard_slots (hslots : 0 < slots) (hword : slots < 0x10000000000000000)
    (places : Finset Nat) (hplaces : ∀ place ∈ places, place < slots) :
    {draw : UInt64 | accepts slots draw = true ∧ slot slots draw ∈ places}.ncard =
      places.card * 2 ^ leadingZeros slots := by
  have := finite_draws
  induction places using Finset.induction_on with
  | empty => simp
  | insert place places hnew ih =>
    have hparts : {draw : UInt64 | accepts slots draw = true ∧
          slot slots draw ∈ insert place places} =
        {draw | accepts slots draw = true ∧ slot slots draw = place} ∪
          {draw | accepts slots draw = true ∧ slot slots draw ∈ places} := by
      ext draw
      simp only [Set.mem_ofPred_eq, Set.mem_union, Finset.mem_insert, and_or_left]
    have hapart : Disjoint {draw : UInt64 | accepts slots draw = true ∧ slot slots draw = place}
        {draw | accepts slots draw = true ∧ slot slots draw ∈ places} := by
      rw [Set.disjoint_left]
      rintro draw ⟨_, rfl⟩ ⟨_, hmember⟩
      exact hnew hmember
    rw [hparts, Set.ncard_union_eq hapart (Set.toFinite _) (Set.toFinite _),
      ncard_slot hslots hword place (hplaces place (Finset.mem_insert_self _ _)),
      ih fun other hother => hplaces other (Finset.mem_insert_of_mem hother),
      Finset.card_insert_of_notMem hnew]
    ring

/-- A draw is in the zone of a slot, or it is refused. -/
theorem ncard_refused (hslots : 0 < slots) (hword : slots < 0x10000000000000000) :
    {draw : UInt64 | accepts slots draw = false}.ncard + slots * 2 ^ leadingZeros slots =
      0x10000000000000000 := by
  have := finite_draws
  have hin : {draw : UInt64 | accepts slots draw = true ∧ slot slots draw ∈ Finset.range slots} =
      {draw | accepts slots draw = true} := by
    ext draw
    simp only [Set.mem_ofPred_eq, Finset.mem_range, slot_lt hslots draw, and_true]
  have hout : {draw : UInt64 | accepts slots draw = true}ᶜ =
      {draw | accepts slots draw = false} := by
    ext draw
    simp only [Set.mem_compl_iff, Set.mem_ofPred_eq, Bool.not_eq_true]
  have haccepted := ncard_slots hslots hword (Finset.range slots) fun _ => Finset.mem_range.mp
  rw [hin, Finset.card_range] at haccepted
  rw [← haccepted, ← hout, Nat.add_comm, Set.ncard_add_ncard_compl _ (Set.toFinite _)
    (Set.toFinite _), card_draws]

end

/-! ## Counting scripts -/

theorem ncard_cons {α : Type} (heads : Set α) (tails : Set (List α)) :
    (Set.image2 List.cons heads tails).ncard = heads.ncard * tails.ncard := by
  have hinjective : Function.Injective fun pair : α × List α => pair.1 :: pair.2 := by
    intro pair pair' hsame
    obtain ⟨hhead, htail⟩ := List.cons.inj hsame
    exact Prod.ext hhead htail
  rw [← Set.image_prod, Set.ncard_image_of_injective _ hinjective, Set.ncard_prod]

theorem ncard_scripts (count : Nat) :
    {script : List UInt64 | script.length = count}.ncard = 0x10000000000000000 ^ count := by
  induction count with
  | zero =>
    have hnone : {script : List UInt64 | script.length = 0} = {[]} := by
      ext script
      simp
    rw [hnone, Set.ncard_singleton, pow_zero]
  | succ count ih =>
    have hcons : {script : List UInt64 | script.length = count + 1} =
        Set.image2 List.cons Set.univ {script | script.length = count} := by
      ext script
      cases script with
      | nil => simp
      | cons draw rest => simp
    rw [hcons, ncard_cons, ih, Set.ncard_univ, card_draws, pow_succ, Nat.mul_comm]

/-- The scripts of one length whose first accepted draw is one of these. -/
def settledBy (slots : Nat) (good : Set UInt64) (count : Nat) : Set (List UInt64) :=
  {script | script.length = count ∧ ∃ draw ∈ good, script.find? (accepts slots) = some draw}

theorem finite_settledBy (slots : Nat) (good : Set UInt64) (count : Nat) :
    (settledBy slots good count).Finite := by
  have := finite_draws
  exact (List.finite_length_eq UInt64 count).subset fun _ hsettled => hsettled.1

/-- A script is settled by its first draw, or that is refused and the rest settles it. -/
theorem settledBy_succ (slots : Nat) (good : Set UInt64)
    (hgood : ∀ draw ∈ good, accepts slots draw = true) (count : Nat) :
    settledBy slots good (count + 1) =
      Set.image2 List.cons good {script | script.length = count} ∪
        Set.image2 List.cons {draw | accepts slots draw = false} (settledBy slots good count) := by
  ext script
  cases script with
  | nil => simp [settledBy]
  | cons draw rest =>
    simp only [settledBy, Set.mem_union, Set.mem_image2, Set.mem_ofPred_eq, List.length_cons,
      Nat.add_right_cancel_iff, List.find?_cons, List.cons.injEq]
    cases haccepts : accepts slots draw with
    | true =>
      constructor
      · rintro ⟨hlength, found, hfound, hsome⟩
        obtain rfl : draw = found := Option.some.inj hsome
        exact Or.inl ⟨draw, hfound, rest, hlength, rfl, rfl⟩
      · rintro (⟨head, hhead, tail, hlength, rfl, rfl⟩ | ⟨head, hhead, tail, _, rfl, rfl⟩)
        · exact ⟨hlength, head, hhead, rfl⟩
        · rw [haccepts] at hhead
          cases hhead
    | false =>
      constructor
      · intro hrest
        exact Or.inr ⟨draw, haccepts, rest, hrest, rfl, rfl⟩
      · rintro (⟨head, hhead, tail, hlength, rfl, rfl⟩ | ⟨head, hhead, tail, hrest, rfl, rfl⟩)
        · rw [hgood head hhead] at haccepts
          cases haccepts
        · exact hrest

theorem ncard_settledBy_succ (slots : Nat) (good : Set UInt64)
    (hgood : ∀ draw ∈ good, accepts slots draw = true) (count : Nat) :
    (settledBy slots good (count + 1)).ncard =
      good.ncard * 0x10000000000000000 ^ count +
        {draw | accepts slots draw = false}.ncard * (settledBy slots good count).ncard := by
  have := finite_draws
  have hapart : Disjoint (Set.image2 List.cons good {script | script.length = count})
      (Set.image2 List.cons {draw | accepts slots draw = false}
        (settledBy slots good count)) := by
    rw [Set.disjoint_left]
    rintro _ ⟨draw, hdraw, rest, _, rfl⟩ ⟨draw', hrefused, rest', _, hsame⟩
    obtain ⟨rfl, _⟩ := List.cons.inj hsame
    rw [Set.mem_ofPred_eq, hgood draw' hdraw] at hrefused
    cases hrefused
  rw [settledBy_succ slots good hgood,
    Set.ncard_union_eq hapart
      (Set.Finite.image2 _ (Set.toFinite _) (List.finite_length_eq UInt64 count))
      (Set.Finite.image2 _ (Set.toFinite _) (finite_settledBy slots good count)),
    ncard_cons, ncard_cons, ncard_scripts]

/-- Of the scripts of one length that settle anything, the share that these draws settle is
their share of all accepted draws. -/
theorem ncard_settledBy {slots : Nat} (hslots : 0 < slots) (hword : slots < 0x10000000000000000)
    (good : Set UInt64) (hgood : ∀ draw ∈ good, accepts slots draw = true) (count : Nat) :
    slots * 2 ^ leadingZeros slots * (settledBy slots good count).ncard +
        good.ncard * {draw | accepts slots draw = false}.ncard ^ count =
      good.ncard * 0x10000000000000000 ^ count := by
  have hwhole := ncard_refused hslots hword
  induction count with
  | zero =>
    have hnone : settledBy slots good 0 = ∅ := by
      ext script
      cases script with
      | nil => simp [settledBy]
      | cons draw rest => simp [settledBy]
    rw [hnone, Set.ncard_empty, pow_zero, pow_zero, Nat.mul_zero, Nat.zero_add]
  | succ count ih =>
    rw [ncard_settledBy_succ slots good hgood]
    generalize (settledBy slots good count).ncard = settled at *
    generalize {draw | accepts slots draw = false}.ncard = refused at *
    generalize slots * 2 ^ leadingZeros slots = accepted at *
    calc accepted * (good.ncard * 0x10000000000000000 ^ count + refused * settled) +
          good.ncard * refused ^ (count + 1)
        = accepted * (good.ncard * 0x10000000000000000 ^ count) +
            refused * (accepted * settled + good.ncard * refused ^ count) := by ring
      _ = (refused + accepted) * (good.ncard * 0x10000000000000000 ^ count) := by rw [ih]; ring
      _ = good.ncard * 0x10000000000000000 ^ (count + 1) := by rw [hwhole]; ring

/-! ## The loop of draws -/

/-- The loop over a source of draws ends with the draw of this number: it is accepted, and
all before it are refused. -/
structure EndsAt (slots : Nat) (source : Nat → UInt64) (last : Nat) : Prop where
  accepted : accepts slots (source last) = true
  refused : ∀ earlier < last, accepts slots (source earlier) = false

/-- The source that gives the draws of a script and then zeros for ever. -/
def thenZeros (script : List UInt64) (number : Nat) : UInt64 :=
  script.getD number 0

theorem accepts_zero (slots : Nat) : accepts slots 0 = true := by
  simp [accepts]

/-- The loop ends at the first zero behind the script, if not before. -/
theorem pick_endsAt (slots : Nat) (script : List UInt64) :
    ∃ last ≤ script.length, EndsAt slots (thenZeros script) last ∧
      pick slots script = (slot slots (thenZeros script last), script.drop (last + 1)) := by
  induction script with
  | nil =>
    refine ⟨0, Nat.le_refl _, ⟨accepts_zero slots, fun _ hbefore => ?_⟩, ?_⟩
    · cases hbefore
    · simp [pick, thenZeros, slot]
  | cons draw rest ih =>
    cases haccepts : accepts slots draw with
    | true =>
      refine ⟨0, Nat.zero_le _, ⟨haccepts, fun _ hbefore => ?_⟩, ?_⟩
      · cases hbefore
      · rw [pick, if_pos haccepts]
        rfl
    | false =>
      obtain ⟨last, hlast, hends, hpick⟩ := ih
      refine ⟨last + 1, Nat.succ_le_succ hlast, ⟨hends.accepted, fun earlier hbefore => ?_⟩, ?_⟩
      · cases earlier with
        | zero => exact haccepts
        | succ earlier => exact hends.refused earlier (Nat.lt_of_succ_lt_succ hbefore)
      · rw [pick, if_neg (by rw [haccepts]; decide), hpick]
        rfl

theorem pick_of_find? {slots : Nat} {script : List UInt64} {draw : UInt64}
    (hfind : script.find? (accepts slots) = some draw) :
    (pick slots script).1 = slot slots draw := by
  induction script with
  | nil => cases hfind
  | cons head rest ih =>
    rw [List.find?_cons] at hfind
    rw [pick]
    cases haccepts : accepts slots head with
    | true =>
      rw [haccepts] at hfind
      obtain rfl : head = draw := Option.some.inj hfind
      rfl
    | false =>
      rw [haccepts] at hfind
      exact ih hfind

/-- What holds of the slot that a script settles holds of the slot of its first accepted
draw. -/
theorem settled_iff (slots : Nat) (script : List UInt64) (Good : Nat → Prop) :
    ((∃ draw ∈ script, accepts slots draw = true) ∧ Good (pick slots script).1) ↔
      ∃ draw, (accepts slots draw = true ∧ Good (slot slots draw)) ∧
        script.find? (accepts slots) = some draw := by
  constructor
  · rintro ⟨hsome, hgood⟩
    obtain ⟨draw, hfind⟩ := Option.isSome_iff_exists.mp (List.find?_isSome.mpr hsome)
    rw [pick_of_find? hfind] at hgood
    exact ⟨draw, ⟨List.find?_some hfind, hgood⟩, hfind⟩
  · rintro ⟨draw, ⟨haccepts, hgood⟩, hfind⟩
    rw [pick_of_find? hfind]
    exact ⟨⟨draw, List.mem_of_find?_eq_some hfind, haccepts⟩, hgood⟩

end Eviction

/-! ## Records that are given up -/

namespace Buffer

open Eviction

variable {α : Type}

/-- A push gives this record up: it is all that is missing of what was held and the new item. -/
def GivesUp (buffer : Buffer α) (item : α) (draws : List UInt64) (record : α) : Prop :=
  (buffer.items + [item] : Multiset α) = (buffer.push item draws).1.items + [record]

theorem givesUp_iff (buffer : Buffer α) (item : α) (draws : List UInt64) (record : α)
    (hmax : 0 < buffer.max) (hfull : buffer.items.length = buffer.max) :
    buffer.GivesUp item draws record ↔ buffer.items[(pick buffer.max draws).1]? = some record := by
  have hslot : (pick buffer.max draws).1 < buffer.items.length := by
    rw [hfull]
    exact pick_lt hmax draws
  have hitems : (buffer.push item draws).1.items =
      buffer.items.set (pick buffer.max draws).1 item := by
    rcases push_cases buffer item draws with ⟨hnone, _⟩ | ⟨hroom, _⟩ | ⟨_, _, hitems, _⟩
    · omega
    · omega
    · exact hitems
  rw [GivesUp, hitems, coe_set buffer.items _ hslot item, List.getElem?_eq_getElem hslot]
  simp

/-- The places in which a record is held are as many as there are copies of it. -/
theorem card_places [DecidableEq α] (items : List α) (record : α) :
    ((Finset.range items.length).filter fun place => items[place]? = some record).card =
      items.count record := by
  rw [← Nat.count_eq_card_filter_range]
  induction items with
  | nil => rfl
  | cons head rest ih =>
    rw [List.length_cons, Nat.count_succ', List.count_cons, ← ih]
    simp

/-- Every copy of a record that a full buffer holds is given up by one and the same share of
the scripts that settle a slot. -/
theorem ncard_givesUp [DecidableEq α] (buffer : Buffer α) (item record : α)
    (hmax : 0 < buffer.max) (hword : buffer.max < 0x10000000000000000)
    (hfull : buffer.items.length = buffer.max) (count : Nat) :
    buffer.max * {script : List UInt64 | script.length = count ∧
          (∃ draw ∈ script, accepts buffer.max draw = true) ∧
          buffer.GivesUp item script record}.ncard +
        buffer.items.count record * {draw | accepts buffer.max draw = false}.ncard ^ count =
      buffer.items.count record * 0x10000000000000000 ^ count := by
  let places := (Finset.range buffer.max).filter fun place => buffer.items[place]? = some record
  let good := {draw : UInt64 | accepts buffer.max draw = true ∧
    buffer.items[slot buffer.max draw]? = some record}
  have hplaces : good =
      {draw | accepts buffer.max draw = true ∧ slot buffer.max draw ∈ places} := by
    ext draw
    simp only [good, places, Set.mem_ofPred_eq, Finset.mem_filter, Finset.mem_range,
      slot_lt hmax draw, true_and]
  have hgood : good.ncard = buffer.items.count record * 2 ^ leadingZeros buffer.max := by
    rw [hplaces, ← card_places, hfull]
    exact ncard_slots hmax hword places fun place hplace =>
      Finset.mem_range.mp (Finset.mem_filter.mp hplace).1
  have hscripts : {script : List UInt64 | script.length = count ∧
        (∃ draw ∈ script, accepts buffer.max draw = true) ∧
        buffer.GivesUp item script record} = settledBy buffer.max good count := by
    ext script
    simp only [settledBy, Set.mem_ofPred_eq, buffer.givesUp_iff item script record hmax hfull]
    exact and_congr_right fun _ =>
      settled_iff buffer.max script fun place => buffer.items[place]? = some record
  have hshare : 0 < 2 ^ leadingZeros buffer.max := Nat.two_pow_pos _
  have hsettled := ncard_settledBy hmax hword good (fun _ hdraw => hdraw.1) count
  rw [hgood] at hsettled
  rw [hscripts]
  apply Nat.eq_of_mul_eq_mul_right hshare
  generalize (settledBy buffer.max good count).ncard = settled at *
  generalize {draw | accepts buffer.max draw = false}.ncard = refused at *
  calc (buffer.max * settled + buffer.items.count record * refused ^ count) *
        2 ^ leadingZeros buffer.max
      = buffer.max * 2 ^ leadingZeros buffer.max * settled +
          buffer.items.count record * 2 ^ leadingZeros buffer.max * refused ^ count := by ring
    _ = buffer.items.count record * 0x10000000000000000 ^ count *
          2 ^ leadingZeros buffer.max := by rw [hsettled]; ring

end Buffer

namespace Eviction

/-! ## In words of 64 bits -/

section

variable {max : UInt64}

theorem toNat_clz (hmax : 0 < max) : max.toBitVec.clz.toNat = leadingZeros max.toNat := by
  have hnonzero : max.toBitVec ≠ 0#64 := fun hzero => by
    rw [UInt64.lt_iff_toBitVec_lt, hzero] at hmax
    exact absurd hmax (by decide)
  have hbelow : max.toBitVec.clz.toNat < 64 := BitVec.clz_lt_iff_ne_zero.mpr hnonzero
  have hlow : 2 ^ (64 - 1 - max.toBitVec.clz.toNat) ≤ max.toNat :=
    BitVec.two_pow_sub_clz_le_toNat_of_ne_zero (by decide) hnonzero
  have hhigh : max.toNat < 2 ^ (64 - max.toBitVec.clz.toNat) := BitVec.toNat_lt_two_pow_sub_clz
  have hlog : max.toNat.log2 = 63 - max.toBitVec.clz.toNat := by
    refine (Nat.log2_eq_iff (Nat.ne_of_gt (UInt64.lt_iff_toNat_lt.mp hmax))).mpr ⟨hlow, ?_⟩
    rwa [show 63 - max.toBitVec.clz.toNat + 1 = 64 - max.toBitVec.clz.toNat by omega]
  rw [leadingZeros, hlog]
  omega

/-- The zone does not overflow, so the rule in words is the one in numbers. -/
theorem accepts_iff_word (hmax : 0 < max) (draw : UInt64) :
    accepts max.toNat draw = true ↔
      draw * max ≤ max <<< UInt64.ofNat max.toBitVec.clz.toNat - 1 := by
  have hslots : 0 < max.toNat := UInt64.lt_iff_toNat_lt.mp hmax
  have hzone := zone_range hslots max.toNat_lt
  have hzeros : leadingZeros max.toNat < 64 := Nat.lt_succ_of_le (Nat.sub_le 63 _)
  have hshift : (max <<< UInt64.ofNat (leadingZeros max.toNat)).toNat =
      max.toNat * 2 ^ leadingZeros max.toNat := by
    rw [UInt64.toNat_shiftLeft, UInt64.toNat_ofNat_of_lt' (by show _ < 2 ^ 64; omega),
      Nat.mod_eq_of_lt hzeros, Nat.shiftLeft_eq]
    exact Nat.mod_eq_of_lt hzone.2
  have hone : (1 : UInt64) ≤ max <<< UInt64.ofNat (leadingZeros max.toNat) := by
    rw [UInt64.le_iff_toNat_le, hshift]
    exact Nat.le_trans (by decide) hzone.1
  rw [accepts_iff hslots, toNat_clz hmax, UInt64.le_iff_toNat_le, UInt64.toNat_mul,
    UInt64.toNat_sub_of_le _ _ hone, hshift]
  show draw.toNat * max.toNat % 2 ^ 64 < _ ↔ _ ≤ max.toNat * 2 ^ leadingZeros max.toNat - 1
  omega

end

/-- The product of a draw and the number of slots falls into a slot, its upper word, and a
lower word that decides whether the draw is accepted. The zone does not overflow, at least
half of the draws are accepted, each slot has the same number of them, and so every copy of
a record that a full buffer holds is given up in the same number of scripts of any length.
The loop ends, at the latest with the first zero behind a script. -/
theorem equal_chances (max : UInt64) (hmax : 0 < max) :
    let slots := max.toNat
    let zeros := max.toBitVec.clz.toNat
    let refused := {draw : UInt64 | accepts slots draw = false}.ncard
    (∀ draw : UInt64,
      slot slots draw * 0x10000000000000000 + (draw * max).toNat = draw.toNat * slots ∧
      (accepts slots draw = true ↔ draw * max ≤ max <<< UInt64.ofNat zeros - 1) ∧
      slot slots draw < slots) ∧
    (∀ place < slots,
      {draw : UInt64 | accepts slots draw = true ∧ slot slots draw = place}.ncard = 2 ^ zeros) ∧
    (refused + slots * 2 ^ zeros = 0x10000000000000000 ∧ refused ≤ 0x8000000000000000) ∧
    (∀ (α : Type) [DecidableEq α] (buffer : Buffer α) (item record : α) (count : Nat),
      buffer.max = slots → buffer.items.length = slots →
      slots * {script : List UInt64 | script.length = count ∧
            (∃ draw ∈ script, accepts slots draw = true) ∧
            buffer.GivesUp item script record}.ncard +
          buffer.items.count record * refused ^ count =
        buffer.items.count record * 0x10000000000000000 ^ count) ∧
    ∀ script : List UInt64, ∃ last ≤ script.length, EndsAt slots (thenZeros script) last ∧
      pick slots script = (slot slots (thenZeros script last), script.drop (last + 1)) := by
  intro slots zeros refused
  have hslots : 0 < slots := UInt64.lt_iff_toNat_lt.mp hmax
  have hword : slots < 0x10000000000000000 := max.toNat_lt
  have hzeros : zeros = leadingZeros slots := toNat_clz hmax
  have hzone := zone_range hslots hword
  have hrefused : refused + slots * 2 ^ zeros = 0x10000000000000000 := by
    rw [hzeros]
    exact ncard_refused hslots hword
  rw [← hzeros] at hzone
  refine ⟨fun draw => ⟨?_, accepts_iff_word hmax draw, slot_lt hslots draw⟩,
    fun place hplace => ?_, ⟨hrefused, by omega⟩, ?_, pick_endsAt slots⟩
  · rw [UInt64.toNat_mul, slot]
    exact Nat.div_add_mod' _ _
  · rw [hzeros]
    exact ncard_slot hslots hword place hplace
  · intro α _ buffer item record count hbuffer hfull
    have hgives := buffer.ncard_givesUp item record (by rw [hbuffer]; exact hslots)
      (by rw [hbuffer]; exact hword) (by rw [hbuffer]; exact hfull) count
    rw [hbuffer] at hgives
    exact hgives

/-- With three slots a quarter of the draws is refused. Of all pairs of draws that settle a
slot, each of three records is given up by a third. -/
theorem equal_chances_three :
    0 < (3 : UInt64) ∧ accepts 3 0x5555555555555555 = false ∧
    {draw : UInt64 | accepts 3 draw = true ∧ slot 3 draw = 2}.ncard = 0x4000000000000000 ∧
    3 * {script : List UInt64 | script.length = 2 ∧ (∃ draw ∈ script, accepts 3 draw = true) ∧
          (⟨3, [10, 11, 12], by decide⟩ : Buffer Nat).GivesUp 13 script 11}.ncard +
        0x4000000000000000 ^ 2 = 0x10000000000000000 ^ 2 ∧
    ∃ last ≤ 1, EndsAt 3 (thenZeros [0x5555555555555555]) last ∧
      pick 3 [0x5555555555555555] =
        (slot 3 (thenZeros [0x5555555555555555] last), [0x5555555555555555].drop (last + 1)) := by
  have hmax : 0 < (3 : UInt64) := by decide
  obtain ⟨_, hshare, ⟨hrefused, _⟩, hrecords, hends⟩ := equal_chances 3 hmax
  have hzeros : (3 : UInt64).toBitVec.clz.toNat = 62 := by decide
  have hquarter : {draw : UInt64 | accepts 3 draw = false}.ncard = 0x4000000000000000 := by
    rw [hzeros] at hrefused
    exact Nat.add_right_cancel (hrefused.trans (by decide))
  refine ⟨hmax, by decide, ?_, ?_, hends [0x5555555555555555]⟩
  · have htwo := hshare 2 (by decide)
    rw [hzeros] at htwo
    exact htwo
  · have hpairs := hrecords Nat ⟨3, [10, 11, 12], by decide⟩ 13 11 2 rfl rfl
    have hcopies : [10, 11, 12].count 11 = 1 := by decide
    rw [hcopies, Nat.one_mul, Nat.one_mul] at hpairs
    rw [← hquarter]
    exact hpairs

end Eviction

end Telemetry
