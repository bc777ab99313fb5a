import Mathlib.Data.List.Forall2
import Telemetry.Proofs.Json.Script
import Telemetry.Schema.Text

/-!
How values of a description are read. A record is read by the names of its fields, each
member filling one slot: the members of one name go to the first field and all others to
the rest, so that their order makes no difference.

A description has to be clear for that: a null stands for nothing only once, so an
optional value is not itself optional; and no two fields have one name.
-/

namespace Telemetry

open Json Json.Document

def Schema.isOptional : {α : Type} → Schema α → Bool
  | _, .optional _ => true
  | _, _ => false

mutual

/-- No null stands for two values, and no two fields of one record have one name. -/
def Schema.isClear : {α : Type} → Schema α → Bool
  | _, .optional item => !item.isOptional && item.isClear
  | _, .list item => item.isClear
  | _, .record _ fields _ _ _ _ => decide fields.names.Nodup && fields.isClear
  | _, .text | _, .flag | _, .integer | _, .word | _, .level => true

def Fields.isClear : {β δ : Type} → Fields β δ → Bool
  | _, _, .done => true
  | _, _, .field _ shape _ rest => shape.isClear && rest.isClear

end

/-! ## Lists and options -/

theorem Json.Document.asOptional_some {α : Type} {read : Document → Result α}
    {document : Document} {value : α} (hnull : document ≠ .null)
    (hread : read document = .ok value) : asOptional read document = .ok (some value) := by
  unfold asOptional
  split
  · exact absurd rfl hnull
  · rw [hread]
    rfl

theorem Json.Document.readAll_of_forall₂ {α : Type} {read : Document → Result α}
    {presents : α → Script → Prop} {values : List α} {items : List Script}
    (hitems : List.Forall₂ presents values items)
    (hread : ∀ value ∈ values, ∀ item, presents value item → read item.document = .ok value) :
    readAll read none (items.map Script.document) = .ok values := by
  induction hitems with
  | nil => rfl
  | cons hitem _ ih =>
    obtain ⟨hfirst, hrest⟩ := List.forall_mem_cons.mp hread
    rw [List.map_cons, readAll, hfirst _ hitem, ih hrest]
    rfl

/-! ## Members -/

namespace Json

section

variable {name : String} {members : List (String × Script)}

/-- What stands under this name. -/
def named (name : String) (members : List (String × Script)) : List Script :=
  (members.filter fun member => member.1 = name).map (·.2)

def others (name : String) (members : List (String × Script)) : List (String × Script) :=
  members.filter fun member => member.1 ≠ name

theorem named_same (item : Script) :
    named name ((name, item) :: members) = item :: named name members := by
  simp [named]

theorem named_other {key : String} (item : Script) (hkey : key ≠ name) :
    named name ((key, item) :: members) = named name members := by
  simp [named, hkey]

theorem others_same (item : Script) :
    others name ((name, item) :: members) = others name members := by
  simp [others]

theorem others_other {key : String} (item : Script) (hkey : key ≠ name) :
    others name ((key, item) :: members) = (key, item) :: others name members := by
  simp [others, hkey]

/-- A name that does not occur has nothing under it, and all members are others. -/
theorem named_of_not_mem (hname : name ∉ members.map (·.1)) :
    named name members = [] ∧ others name members = members := by
  induction members with
  | nil => exact ⟨rfl, rfl⟩
  | cons member members ih =>
    obtain ⟨key, item⟩ := member
    rw [List.map_cons, List.mem_cons, not_or] at hname
    obtain ⟨hnamed, hothers⟩ := ih hname.2
    rw [named_other item (Ne.symm hname.1), others_other item (Ne.symm hname.1), hnamed, hothers]
    exact ⟨rfl, rfl⟩

theorem named_others {other : String} (hother : other ≠ name) :
    named other (others name members) = named other members := by
  rw [named, named, others, List.filter_filter]
  refine congrArg (List.map _) (List.filter_congr fun member _ => ?_)
  by_cases hkey : member.1 = other
  · simp [hkey, hother]
  · simp [hkey]

end

end Json

/-! ## Records -/

/-- What an absent field means. -/
def Presence.absent? {α : Type} : Presence α → Option α
  | .required => none
  | .omittable absent => some absent
  | .defaulted absent => some absent

namespace Fields

/-- A field is what its slot holds, or what its absence means. -/
theorem complete_field {α β δ : Type} {name : String} {shape : Schema α}
    {presence : Presence α} {rest : Fields β δ} {slot : Option α} {slots : δ} {value : α}
    {values : β} (hslot : slot.or presence.absent? = some value)
    (hrest : rest.complete slots = .ok values) :
    (Fields.field name shape presence rest).complete (slot, slots) = .ok (value, values) := by
  rw [complete.eq_def]
  dsimp only
  rw [hrest]
  cases slot with
  | some held =>
    cases hslot
    rfl
  | none =>
    cases presence with
    | required => cases hslot
    | omittable absent | defaulted absent =>
      cases hslot
      rfl

section

variable {source : Source} {α β δ : Type} {name : String} {shape : Schema α}
  {presence : Presence α} {rest : Fields β δ} {slot : Option α} {slots filled : δ}

theorem readMember_other {key : String} {document : Document} (hkey : key ≠ name)
    (hrest : rest.readMember source slots key document = .ok filled) :
    (Fields.field name shape presence rest).readMember source (slot, slots) key document =
      .ok (slot, filled) := by
  rw [readMember.eq_def]
  dsimp only
  rw [if_neg hkey, hrest]
  rfl

theorem readMember_first {document : Document} {value : α}
    (hvalue : shape.readJson source document = .ok value) :
    (Fields.field name shape presence rest).readMember source (none, slots) name document =
      .ok (some value, slots) := by
  rw [readMember.eq_def]
  dsimp only
  rw [if_pos rfl, hvalue]
  rfl

/-- What the members of its name make of the slot of a field. -/
inductive Fills (read : Script → Result α) : Option α → List Script → Option α → Prop
  | nothing (slot : Option α) : Fills read slot [] slot
  | once {item : Script} {value : α} (hread : read item = .ok value) :
    Fills read none [item] (some value)

/-- The members of one name go to their field, and all others to the other fields, in
whatever order they stand. -/
theorem walk_field {members : List (String × Script)} {filled : Option α} {more : δ}
    (hfills : Fills (fun item => shape.readJson source item.document) slot (named name members)
      filled)
    (hwalk : walk (rest.readMember source) none slots (entries (others name members)) =
      .ok more) :
    walk ((Fields.field name shape presence rest).readMember source) none (slot, slots)
      (entries members) = .ok (filled, more) := by
  induction members generalizing slot slots with
  | nil =>
    cases hfills
    cases hwalk
    rfl
  | cons member members ih =>
    obtain ⟨key, item⟩ := member
    by_cases hkey : key = name
    · subst hkey
      rw [named_same] at hfills
      rw [others_same] at hwalk
      generalize hlater : named key members = later at hfills
      -- The slot was empty, and none of the members after this one has its name.
      cases hfills with
      | once hread =>
        rw [entries, List.map_cons, walk, readMember_first hread]
        exact ih (hlater ▸ .nothing _) hwalk
    · rw [named_other item hkey] at hfills
      rw [others_other item hkey, entries, List.map_cons, walk] at hwalk
      rw [entries, List.map_cons, walk]
      cases hstep : rest.readMember source slots key item.document with
      | error mismatch =>
        rw [hstep] at hwalk
        cases hwalk
      | ok next =>
        rw [hstep] at hwalk
        rw [readMember_other hkey hstep]
        exact ih hfills hwalk

end

end Fields

/-! ## Values -/

namespace Schema

variable (source : Source)

theorem readJson_integer {n : Int} (hlow : -0x8000000000000000 ≤ n)
    (hhigh : n < 0x8000000000000000) :
    integer.readJson source (.number (.ok (.int n))) = .ok n :=
  if_pos ⟨hlow, Int.le_of_lt_add_one hhigh⟩

theorem readJson_word (w : UInt32) :
    word.readJson source (.number (.ok (.int w.toNat))) = .ok w := by
  have hword := w.toNat_lt
  have hread : asInt "u32" 0 0xffffffff (.number (.ok (.int w.toNat))) = .ok w.toNat :=
    if_pos ⟨by omega, by omega⟩
  rw [Schema.readJson, hread]
  exact congrArg Except.ok UInt32.ofNat_toNat

theorem readJson_level (l : Level) : level.readJson source (.string (.ok l.code)) = .ok l := by
  cases source with
  | text => cases l <;> rfl
  | value => cases l <;> rfl

theorem readJson_record {α β δ : Type} {name : String} {fields : Fields β δ} {view : α → β}
    {make : β → α} {make_view : ∀ a, make (view a) = a} {view_make : ∀ b, view (make b) = b}
    {members : List (Except Cause String × Document)} {slots : δ} {value : α}
    (hwalk : walk (fields.readMember source) none fields.unread members = .ok slots)
    (hcomplete : fields.complete slots = .ok (view value)) :
    (record name fields view make make_view view_make).readJson source (.object members none) =
      .ok value := by
  rw [Schema.readJson.eq_def]
  dsimp only
  rw [hwalk]
  dsimp only [bind, Except.bind]
  rw [hcomplete]
  exact congrArg Except.ok (make_view value)

end Schema

end Telemetry
