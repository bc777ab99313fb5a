import Mathlib.Data.List.Forall2
import Telemetry.Proofs.Json.Script

/-!
The text that is written for a value is a text like any other: one without blanks, with
no more escapes than there have to be. So it is read back.

A double is left out: its text is the shortest that reads back, which is a matter of
its own.
-/

namespace Telemetry.Json

open Utf8 Document

/-- Every number is whole and fits 64 bits. -/
def Number.IsExact : Number → Prop
  | .int n => IsWord n
  | .float _ => False

mutual

def IsExact : Json → Prop
  | .number n => n.IsExact
  | .array items => ItemsExact items
  | .object members => MembersExact members
  | .null | .bool _ | .string _ => True

def ItemsExact : List Json → Prop
  | [] => True
  | item :: rest => IsExact item ∧ ItemsExact rest

def MembersExact : List (String × Json) → Prop
  | [] => True
  | (_, value) :: rest => IsExact value ∧ MembersExact rest

end

/-- A key as it is written. -/
def Key.written (name : String) : Key :=
  ⟨[], Glyph.ofText name, []⟩

theorem Key.octets_written (name : String) :
    (Key.written name).octets = encodeChars (quoted name) :=
  Glyph.quoted_ofText name

theorem encodeChars_items (item : Json) (more : List Json) :
    encodeChars (itemChars (item :: more)) =
      encodeChars item.chars ++ encodeChars (moreItemChars more) := by
  rw [itemChars, encodeChars_append]

theorem encodeChars_members (key : String) (value : Json) (more : List (String × Json)) :
    encodeChars (memberChars ((key, value) :: more)) =
      encodeChars (quoted key) ++ 58 ::
        (encodeChars value.chars ++ encodeChars (moreMemberChars more)) := by
  rw [memberChars, encodeChars_append, encodeChars_cons, encodeChars_append]
  rfl

/-- A text in which this value is written as it is written by itself. -/
def Writes (value : Json) (script : Script) : Prop :=
  script.octets = value.octets

/-- A member with this name and such a text of its value. -/
def WritesMember (member : String × Json) (named : String × Script) : Prop :=
  named.1 = member.1 ∧ Writes member.2 named.2

theorem exists_items {items : List Json} {scripts : List Script}
    (hwrites : List.Forall₂ Writes items scripts) (hsome : items ≠ []) :
    ∃ tree : Items, tree.octets = encodeChars (itemChars items) ∧ tree.list = scripts := by
  induction hwrites with
  | nil => exact absurd rfl hsome
  | @cons item script more scripts hwrites hmore ih =>
    cases hmore with
    | nil =>
      refine ⟨.last [] script [], ?_, rfl⟩
      rw [encodeChars_items, ← octets, ← hwrites]
      rfl
    | cons =>
      obtain ⟨tree, hoctets, hlist⟩ := ih (List.cons_ne_nil _ _)
      refine ⟨.next [] script [] tree, ?_, congrArg (script :: ·) hlist⟩
      rw [encodeChars_items, ← octets, ← hwrites]
      exact congrArg (script.octets ++ 44 :: ·) hoctets

theorem exists_array {items : List Json} {scripts : List Script}
    (hwrites : List.Forall₂ Writes items scripts) :
    ∃ script, Writes (.array items) script ∧ script.items? = some scripts := by
  cases hwrites with
  | nil => exact ⟨.emptyArray [], rfl, rfl⟩
  | cons hfirst hmore =>
    obtain ⟨tree, hoctets, hlist⟩ := exists_items (.cons hfirst hmore) (List.cons_ne_nil _ _)
    exact ⟨.array tree, congrArg (91 :: ·) hoctets, congrArg some hlist⟩

theorem exists_members {members : List (String × Json)} {scripts : List (String × Script)}
    (hwrites : List.Forall₂ WritesMember members scripts) (hsome : members ≠ []) :
    ∃ tree : Members, tree.octets = encodeChars (memberChars members) ∧
      tree.list? = some scripts := by
  induction hwrites with
  | nil => exact absurd rfl hsome
  | @cons member named more scripts hwrites hmore ih =>
    obtain ⟨key, value⟩ := member
    obtain ⟨name, script⟩ := named
    obtain ⟨rfl, hvalue⟩ := hwrites
    have hkey : Glyph.text? (Key.written name).glyphs = some name := Glyph.text?_ofText name
    cases hmore with
    | nil =>
      refine ⟨.last (.written name) [] script [], ?_, ?_⟩
      · rw [encodeChars_members, ← octets, ← hvalue, ← Key.octets_written]
        rfl
      · rw [Members.list?, hkey]
        rfl
    | cons =>
      obtain ⟨tree, hoctets, hlist⟩ := ih (List.cons_ne_nil _ _)
      refine ⟨.next (.written name) [] script [] tree, ?_, ?_⟩
      · have hnext : encodeChars (moreMemberChars (_ :: _)) = 44 :: tree.octets :=
          congrArg (44 :: ·) hoctets.symm
        rw [encodeChars_members, hnext, ← octets, ← hvalue, ← Key.octets_written]
        rfl
      · rw [Members.list?, hkey, hlist]
        rfl

theorem exists_object {members : List (String × Json)} {scripts : List (String × Script)}
    (hwrites : List.Forall₂ WritesMember members scripts) :
    ∃ script, Writes (.object members) script ∧ script.members? = some scripts := by
  cases hwrites with
  | nil => exact ⟨.emptyObject [], rfl, rfl⟩
  | cons hfirst hmore =>
    obtain ⟨tree, hoctets, hlist⟩ := exists_members (.cons hfirst hmore) (List.cons_ne_nil _ _)
    exact ⟨.object tree, congrArg (123 :: ·) hoctets, hlist⟩

mutual

theorem exists_script : (value : Json) → value.IsExact →
    ∃ script, Writes value script ∧ script.document = ofJson value
  | .null, _ => ⟨.null, rfl, rfl⟩
  | .bool true, _ => ⟨.bool true, rfl, rfl⟩
  | .bool false, _ => ⟨.bool false, rfl, rfl⟩
  | .number (.int n), hexact => by
    obtain ⟨figure, hoctets, hint⟩ := exists_figure n
    exact ⟨.number figure, hoctets, Script.document_of_int? hint hexact⟩
  | .string s, _ =>
    ⟨.string (Glyph.ofText s), Glyph.quoted_ofText s,
      Script.document_of_text? (Glyph.text?_ofText s)⟩
  | .array items, hexact => by
    obtain ⟨scripts, hwrites, hdocuments⟩ := exists_scripts items hexact
    obtain ⟨script, hscript, hitems⟩ := exists_array hwrites
    refine ⟨script, hscript, ?_⟩
    rw [Script.document_of_items? hitems, hdocuments, ofJson]
  | .object members, hexact => by
    obtain ⟨scripts, hwrites, hentries⟩ := exists_namedScripts members hexact
    obtain ⟨script, hscript, hmembers⟩ := exists_object hwrites
    refine ⟨script, hscript, ?_⟩
    rw [Script.document_of_members? hmembers, hentries, ofJson]

theorem exists_scripts : (items : List Json) → ItemsExact items →
    ∃ scripts, List.Forall₂ Writes items scripts ∧
      scripts.map Script.document = ofJson.ofItems items
  | [], _ => ⟨[], .nil, rfl⟩
  | item :: more, hexact => by
    obtain ⟨script, hscript, hdocument⟩ := exists_script item hexact.1
    obtain ⟨scripts, hscripts, hdocuments⟩ := exists_scripts more hexact.2
    refine ⟨script :: scripts, .cons hscript hscripts, ?_⟩
    rw [List.map_cons, hdocument, hdocuments, ofJson.ofItems]

theorem exists_namedScripts : (members : List (String × Json)) → MembersExact members →
    ∃ scripts, List.Forall₂ WritesMember members scripts ∧
      entries scripts = ofJson.ofMembers members
  | [], _ => ⟨[], .nil, rfl⟩
  | (key, value) :: more, hexact => by
    obtain ⟨script, hscript, hdocument⟩ := exists_script value hexact.1
    obtain ⟨scripts, hscripts, hentries⟩ := exists_namedScripts more hexact.2
    refine ⟨(key, script) :: scripts, .cons ⟨rfl, hscript⟩ hscripts, ?_⟩
    rw [entries] at hentries ⊢
    rw [List.map_cons, hdocument, hentries, ofJson.ofMembers]

end

/-- Whatever reads the document of a value reads its text, if nothing follows. -/
theorem readText_octets {ε α : Type} {value : Json} (hvalue : value.IsExact) (wrong : Cause → ε)
    (use : Document → Except ε α) :
    readText value.octets wrong use = use (ofJson value) := by
  obtain ⟨script, hoctets, hdocument⟩ := exists_script value hvalue
  have hreads : Reads _ (script.octets ++ []) [] := script.reads [] nofun
  rw [List.append_nil, hoctets, hdocument] at hreads
  have hread : readDocument value.octets = ⟨ofJson value, .ok []⟩ :=
    readDocument_eq_ok_iff.mpr hreads
  rw [readText, hread]
  cases huse : use (ofJson value) with
  | error mismatch => rfl
  | ok result => rfl

end Telemetry.Json
