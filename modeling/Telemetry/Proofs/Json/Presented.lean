import Telemetry.Proofs.Binary
import Telemetry.Proofs.Json.Records
import Telemetry.Proofs.Json.Values

/-!
A text presents a value if it writes what the value holds, in whatever form. The members
of an object may stand in any order and among others of unknown names; a field that may be
left out may stand once or not at all. Whatever presents a value is read as that value,
and the text that is written for a value is one that presents it.
-/

namespace Telemetry

open Json Json.Document

/-- What is said of all that stands under one name: once, or not at all. -/
def AtMostOnce (present : Script → Prop) (absent : Prop) : List Script → Prop
  | [] => absent
  | [script] => present script
  | _ :: _ :: _ => False

mutual

/-- A whole number is written by its digits: with a point or a power of ten, or as minus
zero, it would be a double. -/
def Schema.Presents : {α : Type} → Schema α → α → Script → Prop
  | _, .text, s, script => script.text? = some s
  | _, .flag, b, script => script.flag? = some b
  | _, .integer, n, script => script.int? = some n
  | _, .word, w, script => script.int? = some (w.toNat : Int)
  | _, .level, level, script => script.text? = some level.code
  | _, .optional item, value, script =>
    match value with
    | none => script.isNull = true
    | some value => item.Presents value script
  | _, .list item, values, script =>
    ∃ items ∈ script.items?, List.Forall₂ item.Presents values items
  | _, .record _ fields view _ _ _, value, script =>
    ∃ members ∈ script.members?, fields.Presents (view value) members

/-- Every field stands once, or not at all where its value is what an absent one means. -/
def Fields.Presents : {β δ : Type} → Fields β δ → β → List (String × Script) → Prop
  | _, _, .done, _, _ => True
  | _, _, .field name shape presence rest, (value, values), members =>
    AtMostOnce (shape.Presents value) (presence.absent? = some value) (named name members) ∧
      rest.Presents values members

end

/-! ## Whether a text presents a value -/

mutual

def Schema.decideEq : {α : Type} → Schema α → DecidableEq α
  | _, .text | _, .flag | _, .integer | _, .word | _, .level => inferInstance
  | _, .optional item =>
    have := item.decideEq
    inferInstance
  | _, .list item =>
    have := item.decideEq
    inferInstance
  | _, .record _ fields view make make_view _ => fun first second =>
    have := fields.decideEq
    decidable_of_iff (view first = view second)
      ⟨fun hview => by rw [← make_view first, hview, make_view], congrArg view⟩

def Fields.decideEq : {β δ : Type} → Fields β δ → DecidableEq β
  | _, _, .done => inferInstance
  | _, _, .field _ shape _ rest =>
    have := shape.decideEq
    have := rest.decideEq
    inferInstance

end

def decideAtMostOnce (present : Script → Prop) (absent : Prop) [DecidablePred present]
    [Decidable absent] : (scripts : List Script) → Decidable (AtMostOnce present absent scripts)
  | [] => inferInstanceAs (Decidable absent)
  | [script] => inferInstanceAs (Decidable (present script))
  | _ :: _ :: _ => .isFalse id

mutual

def Schema.decidePresents : {α : Type} → (schema : Schema α) → (value : α) →
    (script : Script) → Decidable (schema.Presents value script)
  | _, .text, s, script => inferInstanceAs (Decidable (script.text? = some s))
  | _, .flag, b, script => inferInstanceAs (Decidable (script.flag? = some b))
  | _, .integer, n, script => inferInstanceAs (Decidable (script.int? = some n))
  | _, .word, w, script => inferInstanceAs (Decidable (script.int? = some (w.toNat : Int)))
  | _, .level, level, script => inferInstanceAs (Decidable (script.text? = some level.code))
  | _, .optional _, none, script => inferInstanceAs (Decidable (script.isNull = true))
  | _, .optional item, some value, script => item.decidePresents value script
  | _, .list item, values, script =>
    have := item.decidePresents
    inferInstanceAs (Decidable (∃ items ∈ script.items?, List.Forall₂ item.Presents values items))
  | _, .record _ fields view _ _ _, value, script =>
    have := fields.decidePresents (view value)
    inferInstanceAs (Decidable (∃ members ∈ script.members?, fields.Presents (view value) members))

def Fields.decidePresents : {β δ : Type} → (fields : Fields β δ) → (values : β) →
    (members : List (String × Script)) → Decidable (fields.Presents values members)
  | _, _, .done, _, _ => .isTrue trivial
  | _, _, .field name shape presence rest, (value, values), members =>
    have := shape.decideEq
    have := shape.decidePresents value
    have := decideAtMostOnce (shape.Presents value) (presence.absent? = some value)
      (named name members)
    have := rest.decidePresents values members
    inferInstanceAs (Decidable (AtMostOnce (shape.Presents value)
      (presence.absent? = some value) (named name members) ∧ rest.Presents values members))

end

instance {α : Type} (schema : Schema α) (value : α) (script : Script) :
    Decidable (schema.Presents value script) :=
  schema.decidePresents value script

/-- Nothing but a value that is left out is a null. -/
theorem Schema.ne_null_of_presents {α : Type} {schema : Schema α} {value : α} {script : Script}
    (hoptional : schema.isOptional = false) (hpresents : schema.Presents value script) :
    script.document ≠ .null := by
  have hnull : script ≠ .null := by
    rintro rfl
    cases schema with
    | optional item => cases hoptional
    | list item =>
      obtain ⟨items, hitems, _⟩ := hpresents
      cases hitems
    | record name fields view =>
      obtain ⟨members, hmembers, _⟩ := hpresents
      cases hmembers
    | _ => cases hpresents
  cases script with
  | null => exact absurd rfl hnull
  | _ => exact nofun

/-! ## Members in any order -/

namespace Fields

/-- Members without a field are skipped. -/
theorem walk_done (source : Source) (members : List (String × Script)) :
    walk (Fields.done.readMember source) none () (entries members) = .ok () := by
  induction members with
  | nil => rfl
  | cons member members ih =>
    have hstep : Fields.done.readMember source () member.1 member.2.document = .ok () := by
      rw [readMember, Json.Document.pass, member.2.skip_document]
      rfl
    rw [entries, List.map_cons, walk, hstep]
    exact ih

theorem exists_fills {α : Type} {presents : Script → Prop} {absent : Option α} {value : α}
    {read : Script → Result α} {scripts : List Script}
    (hread : ∀ script, presents script → read script = .ok value)
    (hscripts : AtMostOnce presents (absent = some value) scripts) :
    ∃ slot, Fills read none scripts slot ∧ slot.or absent = some value := by
  cases scripts with
  | nil => exact ⟨none, .nothing none, hscripts⟩
  | cons script more =>
    cases more with
    | nil => exact ⟨some value, .once (hread script hscripts), rfl⟩
    | cons next more => cases hscripts

/-- Fields of other names do not see the members of this name. -/
theorem presents_others {name : String} : {β δ : Type} → {fields : Fields β δ} →
    {values : β} → {members : List (String × Script)} → name ∉ fields.names →
    (fields.Presents values (others name members) ↔ fields.Presents values members)
  | _, _, .done, _, _, _ => Iff.rfl
  | _, _, .field other _ _ _, (_, _), members, hname => by
    obtain ⟨hother, hrest⟩ := not_or.mp (List.mem_cons.not.mp hname)
    rw [Fields.Presents, Fields.Presents, named_others (Ne.symm hother), presents_others hrest]

end Fields

/-! ## Values -/

mutual

/-- Whatever presents a value is read as that value. -/
theorem Schema.readJson_presents (source : Source) : {α : Type} → (schema : Schema α) →
    schema.isClear = true → {value : α} → schema.Fits value → {script : Script} →
    schema.Presents value script → schema.readJson source script.document = .ok value
  | _, .text, _, _, _, _, hpresents => by
    rw [Script.document_of_text? hpresents]
    rfl
  | _, .flag, _, _, _, _, hpresents => by
    rw [Script.document_of_flag? hpresents]
    rfl
  | _, .integer, _, n, hfits, _, hpresents => by
    rw [Script.document_of_int? hpresents ⟨hfits.1, Int.lt_trans hfits.2 (by decide)⟩]
    exact Schema.readJson_integer source hfits.1 hfits.2
  | _, .word, _, w, _, _, hpresents => by
    have hword := w.toNat_lt
    rw [Script.document_of_int? hpresents ⟨by omega, by omega⟩]
    exact Schema.readJson_word source w
  | _, .level, _, level, _, _, hpresents => by
    rw [Script.document_of_text? hpresents]
    exact Schema.readJson_level source level
  | _, .optional _, _, none, _, _, hpresents => by
    rw [Script.document_of_isNull hpresents]
    rfl
  | _, .optional item, hclear, some value, hfits, _, hpresents => by
    obtain ⟨hoptional, hitem⟩ := Bool.and_eq_true_iff.mp hclear
    rw [Bool.not_eq_true'] at hoptional
    exact asOptional_some (Schema.ne_null_of_presents hoptional hpresents)
      (item.readJson_presents source hitem (hfits value rfl) hpresents)
  | _, .list item, hclear, values, hfits, script, hpresents => by
    obtain ⟨items, hitems, hall⟩ := hpresents
    rw [Script.document_of_items? hitems]
    exact readAll_of_forall₂ hall fun value hvalue _ hitem =>
      item.readJson_presents source hclear (hfits.2 value hvalue) hitem
  | _, .record _ fields _ _ _ _, hclear, _, hfits, _, hpresents => by
    obtain ⟨hnames, hfields⟩ := Bool.and_eq_true_iff.mp hclear
    obtain ⟨members, hmembers, hall⟩ := hpresents
    obtain ⟨slots, hwalk, hcomplete⟩ :=
      fields.walk_presents source (of_decide_eq_true hnames) hfields hfits hall
    rw [Script.document_of_members? hmembers]
    exact Schema.readJson_record source hwalk hcomplete

theorem Fields.walk_presents (source : Source) : {β δ : Type} → (fields : Fields β δ) →
    fields.names.Nodup → fields.isClear = true → {values : β} → fields.Fits values →
    {members : List (String × Script)} → fields.Presents values members →
    ∃ slots, walk (fields.readMember source) none fields.unread
        (entries members) = .ok slots ∧
      fields.complete slots = .ok values
  | _, _, .done, _, _, _, _, members, _ => ⟨(), Fields.walk_done source members, rfl⟩
  | _, _, .field name shape presence rest, hnames, hclear, (value, values), hfits, members,
      hpresents => by
    obtain ⟨hname, hrest⟩ := List.nodup_cons.mp hnames
    obtain ⟨hshape, hfields⟩ := Bool.and_eq_true_iff.mp hclear
    obtain ⟨hfirst, hlater⟩ := hpresents
    obtain ⟨slots, hwalk, hcomplete⟩ := rest.walk_presents source hrest hfields hfits.2
      ((Fields.presents_others hname).mpr hlater)
    obtain ⟨slot, hfills, hslot⟩ := Fields.exists_fills
      (fun _ hscript => shape.readJson_presents source hshape hfits.1 hscript) hfirst
    exact ⟨(slot, slots), Fields.walk_field hfills hwalk, Fields.complete_field hslot hcomplete⟩

end

/-! ## What is written -/

theorem Json.exists_scripts_map {α : Type} {write : α → Json} {presents : α → Script → Prop}
    (hall : ∀ value, ∃ script, Writes (write value) script ∧ presents value script)
    (values : List α) : ∃ scripts, List.Forall₂ Writes (values.map write) scripts ∧
      List.Forall₂ presents values scripts := by
  induction values with
  | nil => exact ⟨[], .nil, .nil⟩
  | cons value values ih =>
    obtain ⟨script, hwrites, hpresents⟩ := hall value
    obtain ⟨scripts, hmore, hlater⟩ := ih
    exact ⟨script :: scripts, .cons hwrites hmore, .cons hpresents hlater⟩

mutual

/-- The text that is written for a value presents it. -/
theorem Schema.exists_presented : {α : Type} → (schema : Schema α) → schema.isClear = true →
    (value : α) → ∃ script, Writes (schema.writeJson value) script ∧
      schema.Presents value script
  | _, .text, _, s => ⟨.string (Glyph.ofText s), Glyph.quoted_ofText s, Glyph.text?_ofText s⟩
  | _, .flag, _, true => ⟨.bool true, rfl, rfl⟩
  | _, .flag, _, false => ⟨.bool false, rfl, rfl⟩
  | _, .integer, _, n => by
    obtain ⟨figure, hoctets, hint⟩ := exists_figure n
    exact ⟨.number figure, hoctets, hint⟩
  | _, .word, _, w => by
    obtain ⟨figure, hoctets, hint⟩ := exists_figure w.toNat
    exact ⟨.number figure, hoctets, hint⟩
  | _, .level, _, level =>
    ⟨.string (Glyph.ofText level.code), Glyph.quoted_ofText _, Glyph.text?_ofText _⟩
  | _, .optional _, _, none => ⟨.null, rfl, rfl⟩
  | _, .optional item, hclear, some value =>
    item.exists_presented (Bool.and_eq_true_iff.mp hclear).2 value
  | _, .list item, hclear, values => by
    obtain ⟨scripts, hwrites, hpresents⟩ :=
      exists_scripts_map (item.exists_presented hclear) values
    obtain ⟨script, hscript, hitems⟩ := exists_array hwrites
    exact ⟨script, hscript, scripts, hitems, hpresents⟩
  | _, .record _ fields view _ _ _, hclear, value => by
    obtain ⟨hnames, hfields⟩ := Bool.and_eq_true_iff.mp hclear
    obtain ⟨members, hwrites, _, hpresents⟩ :=
      fields.exists_presented (of_decide_eq_true hnames) hfields (view value)
    obtain ⟨script, hscript, hmembers⟩ := exists_object hwrites
    exact ⟨script, hscript, members, hmembers, hpresents⟩

theorem Fields.exists_presented : {β δ : Type} → (fields : Fields β δ) → fields.names.Nodup →
    fields.isClear = true → (values : β) → ∃ members,
      List.Forall₂ WritesMember (fields.writeMembers values) members ∧
        members.map (·.1) = fields.names ∧ fields.Presents values members
  | _, _, .done, _, _, _ => ⟨[], .nil, rfl, trivial⟩
  | _, _, .field name shape _ rest, hnames, hclear, (value, values) => by
    obtain ⟨hname, hrest⟩ := List.nodup_cons.mp hnames
    obtain ⟨hshape, hfields⟩ := Bool.and_eq_true_iff.mp hclear
    obtain ⟨script, hscript, hvalue⟩ := shape.exists_presented hshape value
    obtain ⟨members, hwrites, hsame, hpresents⟩ := rest.exists_presented hrest hfields values
    obtain ⟨hnamed, hothers⟩ := named_of_not_mem (hsame ▸ hname)
    refine ⟨(name, script) :: members, .cons ⟨rfl, hscript⟩ hwrites,
      congrArg (name :: ·) hsame, ?_, ?_⟩
    · rw [named_same, hnamed]
      exact hvalue
    · rw [← Fields.presents_others hname, others_same, hothers]
      exact hpresents

end

end Telemetry
