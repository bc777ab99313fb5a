import Mathlib.Data.String.Basic
import Telemetry.Json.Parse
import Telemetry.Payload
import Telemetry.Proofs.Keyed
import Telemetry.Proofs.Json.Values

/-!
Payloads are measured exactly and come back as they were. The walk that stops early
sees the nesting of a value up to one more than the limit, which is enough to tell
whether the limit is exceeded; and the text of a value that is not nested too deep for
the reader of values is read as that value.
-/

namespace Telemetry

open Json

namespace Payload

/-! ## Depth -/

/-- As much of a depth as a walk with this limit tells. -/
def capped (depth : Nat) : Option Nat → Nat
  | none => depth
  | some limit => min depth (limit + 1)

/-- A container adds one to what is seen of its children, who have one less to go. -/
theorem one_add_capped (deepest : Nat) {limit : Option Nat} (hlimit : limit ≠ some 0) :
    1 + capped deepest (limit.map (· - 1)) = capped (1 + deepest) limit := by
  cases limit with
  | none => rfl
  | some limit =>
    have hpos : limit ≠ 0 := fun hzero => hlimit (congrArg some hzero)
    simp only [capped, Option.map_some]
    omega

theorem capped_nothing (limit : Option Nat) : capped 0 limit = 0 := by
  cases limit with
  | none => rfl
  | some limit => exact Nat.zero_min _

/-- A limit of zero tells one of every container. -/
theorem capped_zero (deepest : Nat) : capped (1 + deepest) (some 0) = 1 := by
  simp only [capped]
  omega

/-- A child that is too deep hides whatever its siblings are. -/
theorem capped_of_exceeds {depth sibling : Nat} {limit : Option Nat}
    (hexceeds : exceeds (capped depth limit) limit = true) :
    capped (max depth sibling) limit = capped depth limit := by
  cases limit with
  | none => cases hexceeds
  | some limit =>
    have hdeep : limit < min depth (limit + 1) := of_decide_eq_true hexceeds
    simp only [capped]
    omega

theorem max_capped (depth sibling : Nat) (limit : Option Nat) :
    max (capped depth limit) (capped sibling limit) = capped (max depth sibling) limit := by
  cases limit with
  | none => rfl
  | some limit =>
    simp only [capped]
    omega

mutual

theorem boundedDepth_eq (limit : Option Nat) : (value : Json) →
    boundedDepth limit value = capped (nesting value) limit
  | .array items => by
    rw [boundedDepth, nesting]
    split
    next hzero => rw [hzero, capped_zero]
    next hlimit =>
      have hitems := deepestItem_eq (limit.map (· - 1)) 0 items
      rw [capped_nothing, Nat.zero_max] at hitems
      rw [hitems, one_add_capped _ hlimit]
  | .object members => by
    rw [boundedDepth, nesting]
    split
    next hzero => rw [hzero, capped_zero]
    next hlimit =>
      have hmembers := deepestMember_eq (limit.map (· - 1)) 0 members
      rw [capped_nothing, Nat.zero_max] at hmembers
      rw [hmembers, one_add_capped _ hlimit]
  | .null | .bool _ | .number _ | .string _ => by
    cases limit <;> rfl

/-- What was seen so far is what the walk tells of some depth. -/
theorem deepestItem_eq (limit : Option Nat) (depth : Nat) : (items : List Json) →
    deepestItem limit (capped depth limit) items = capped (max depth (itemNesting items)) limit
  | [] => by rw [deepestItem, itemNesting, Nat.max_zero]
  | item :: rest => by
    rw [deepestItem, boundedDepth_eq limit item, max_capped, itemNesting, ← Nat.max_assoc]
    split
    next hexceeds => exact (capped_of_exceeds hexceeds).symm
    next => exact deepestItem_eq limit _ rest

theorem deepestMember_eq (limit : Option Nat) (depth : Nat) : (members : List (String × Json)) →
    deepestMember limit (capped depth limit) members =
      capped (max depth (memberNesting members)) limit
  | [] => by rw [deepestMember, memberNesting, Nat.max_zero]
  | (_, value) :: rest => by
    rw [deepestMember, boundedDepth_eq limit value, max_capped, memberNesting, ← Nat.max_assoc]
    split
    next hexceeds => exact (capped_of_exceeds hexceeds).symm
    next => exact deepestMember_eq limit _ rest

end

theorem encode_eq (value : Json) (maxDepth : Nat) :
    encode value maxDepth =
      if nesting value ≤ maxDepth then .ok value.text else .error (.tooDeep maxDepth) := by
  have hdepth : boundedDepth (some maxDepth) value = min (nesting value) (maxDepth + 1) :=
    boundedDepth_eq (some maxDepth) value
  rw [encode, hdepth]
  by_cases hdeep : nesting value ≤ maxDepth
  · rw [if_pos hdeep, if_neg (by omega)]
  · rw [if_neg hdeep, if_pos (by omega)]

/-- The walk tells the nesting up to one more than its limit. So a payload is refused
exactly if it is nested deeper than allowed, and otherwise its text is the same under
every limit. -/
theorem depth_exact (value : Json) :
    (∀ limit, boundedDepth (some limit) value = min (nesting value) (limit + 1)) ∧
    depth value = nesting value ∧
    ∀ maxDepth, encode value maxDepth =
      if nesting value ≤ maxDepth then .ok value.text else .error (.tooDeep maxDepth) :=
  ⟨fun limit => boundedDepth_eq (some limit) value, boundedDepth_eq none value,
    encode_eq value⟩

end Payload

/-! ## Reading back -/

namespace Json

mutual

/-- The value with the members of every object in key order, the order in which an
object holds them. -/
def ordered : Json → Json
  | .array items => .array (orderedItems items)
  | .object members => .object (orderedMembers [] members)
  | other => other

def orderedItems : List Json → List Json
  | [] => []
  | item :: rest => ordered item :: orderedItems rest

def orderedMembers (done : Keyed Json) : List (String × Json) → Keyed Json
  | [] => done
  | (key, value) :: rest => orderedMembers (done.insert key (ordered value)) rest

end

mutual

/-- The keys of every object are in ascending order, so each of them is there once. -/
def KeysAscend : Json → Prop
  | .array items => ItemsAscend items
  | .object members => Keyed.Sorted members ∧ MembersAscend members
  | .null | .bool _ | .number _ | .string _ => True

def ItemsAscend : List Json → Prop
  | [] => True
  | item :: rest => KeysAscend item ∧ ItemsAscend rest

def MembersAscend : List (String × Json) → Prop
  | [] => True
  | (_, value) :: rest => KeysAscend value ∧ MembersAscend rest

end

mutual

theorem ordered_of_keysAscend : (value : Json) → value.KeysAscend → value.ordered = value
  | .array items, hascend => by
    rw [ordered, orderedItems_of_ascend items hascend]
  | .object members, hascend => by
    rw [ordered, orderedMembers_of_ascend [] members hascend.1 hascend.2]
    rfl
  | .null, _ | .bool _, _ | .number _, _ | .string _, _ => rfl

theorem orderedItems_of_ascend : (items : List Json) → ItemsAscend items →
    orderedItems items = items
  | [], _ => rfl
  | item :: rest, hascend => by
    rw [orderedItems, ordered_of_keysAscend item hascend.1, orderedItems_of_ascend rest hascend.2]

/-- Each member goes behind those that are there already. -/
theorem orderedMembers_of_ascend (done : Keyed Json) : (members : List (String × Json)) →
    Keyed.Sorted (done ++ members) → MembersAscend members →
    orderedMembers done members = done ++ members
  | [], _, _ => (List.append_nil done).symm
  | (key, value) :: rest, hsorted, hascend => by
    have hlast : ∀ entry ∈ done, entry.1 < key := fun entry hentry =>
      (List.pairwise_append.mp hsorted).2.2 entry hentry (key, value) List.mem_cons_self
    have hsplit : done ++ (key, value) :: rest = (done ++ [(key, value)]) ++ rest :=
      List.append_cons done (key, value) rest
    rw [hsplit] at hsorted ⊢
    rw [orderedMembers, ordered_of_keysAscend value hascend.1, Keyed.insert_last _ _ _ hlast,
      orderedMembers_of_ascend _ rest hsorted hascend.2]

end

mutual

/-- Every bracket takes one from the room that is left. -/
theorem ofDocument_ofJson : (value : Json) → {room : Nat} → Payload.nesting value < room →
    ofDocument room (Document.ofJson value) = .ok value.ordered
  | .array items, room, hroom => by
    rw [Payload.nesting] at hroom
    have hitems : ofItems (room - 1) none _ = _ := ofItems_ofJson items (by omega)
    rw [Document.ofJson, ofDocument, if_neg (by omega), hitems]
    rfl
  | .object members, room, hroom => by
    rw [Payload.nesting] at hroom
    have hmembers : ofMembers (room - 1) none [] _ = _ := ofMembers_ofJson members [] (by omega)
    rw [Document.ofJson, ofDocument, if_neg (by omega), hmembers]
    rfl
  | .null, _, _ | .bool _, _, _ | .number _, _, _ | .string _, _, _ => rfl

theorem ofItems_ofJson : (items : List Json) → {room : Nat} → Payload.itemNesting items < room →
    ofItems room none (Document.ofJson.ofItems items) = .ok (orderedItems items)
  | [], _, _ => rfl
  | item :: rest, room, hroom => by
    rw [Payload.itemNesting] at hroom
    have hitem : ofDocument room _ = _ := ofDocument_ofJson item (by omega)
    have hrest : ofItems room none _ = _ := ofItems_ofJson rest (by omega)
    rw [Document.ofJson.ofItems, ofItems, hitem, hrest]
    rfl

theorem ofMembers_ofJson : (members : List (String × Json)) → {room : Nat} →
    (done : Keyed Json) → Payload.memberNesting members < room →
    ofMembers room none done (Document.ofJson.ofMembers members) =
      .ok (orderedMembers done members)
  | [], _, _, _ => rfl
  | (key, value) :: rest, room, done, hroom => by
    rw [Payload.memberNesting] at hroom
    have hvalue : ofDocument room _ = _ := ofDocument_ofJson value (by omega)
    have hrest : ofMembers room none (done.insert key value.ordered) _ = _ :=
      ofMembers_ofJson rest (done.insert key value.ordered) (by omega)
    rw [Document.ofJson.ofMembers, ofMembers, hvalue]
    exact hrest

end

end Json

namespace Payload

theorem encode_text (value : Json) : Utf8.encode value.text = value.octets := by
  rw [Utf8.encode, Json.text, String.toList_ofList]
  rfl

/-- The text of an accepted payload is read to its end as that value, if the members of
its objects are in key order, as objects hold them; otherwise they come back so. -/
theorem parse_encode {value : Json} {maxDepth : Nat} {text : String} (hexact : value.IsExact)
    (hmax : maxDepth ≤ 127) (haccepted : encode value maxDepth = .ok text) :
    (value.KeysAscend → Json.parse (Utf8.encode text) = .ok value) ∧
      Json.parse (Utf8.encode text) = .ok value.ordered := by
  have hparse : Json.parse (Utf8.encode text) = .ok value.ordered := by
    rw [encode_eq] at haccepted
    split at haccepted
    next hdepth =>
      cases haccepted
      have hroom : nesting value < nestingLimit := by
        rw [nestingLimit]
        omega
      rw [encode_text, Json.parse, readText_octets hexact, ofDocument_ofJson value hroom]
    next => cases haccepted
  refine ⟨fun hascend => ?_, hparse⟩
  rw [hparse, ordered_of_keysAscend value hascend]

/-- Both ends of the whole numbers, escapes of every kind, empty and nested brackets. -/
def Sample.value : Json :=
  .object
    [("", .array []),
      ("a\"\\", .array
        [.number (.int (-0x8000000000000000)), .number (.int 0xffffffffffffffff), .bool true,
          .array [.null, .object []]]),
      ("é𝄞", .object [("\x01", .string "\x00\t\n/\x7f€"), ("b", .string "")])]

theorem parse_encode_sample :
    Sample.value.IsExact ∧ Sample.value.KeysAscend ∧
      encode Sample.value 4 = .ok Sample.value.text ∧
      Json.parse (Utf8.encode Sample.value.text) = .ok Sample.value := by
  have hexact : Sample.value.IsExact := by
    simp [Sample.value, IsExact, ItemsExact, MembersExact, Number.IsExact, IsWord]
  have hascend : Sample.value.KeysAscend := by
    simp only [Sample.value, KeysAscend, ItemsAscend, MembersAscend, Keyed.Sorted, and_true]
    decide
  have haccepted : encode Sample.value 4 = .ok Sample.value.text := by
    rw [encode, if_neg (by decide)]
  exact ⟨hexact, hascend, haccepted, (parse_encode hexact (by decide) haccepted).1 hascend⟩

end Payload

end Telemetry
