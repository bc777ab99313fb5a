import Telemetry.Proofs.Json.Figures
import Telemetry.Proofs.Json.Glyphs
import Telemetry.Proofs.Json.Rules

/-!
A JSON text as a tree in which everything stands that is left to its writer: the blanks
between the marks, the forms of the numbers, the escapes of the characters, and members in
any order and number. Every such text is read to the document of its tree.
-/

namespace Telemetry.Json

/-! ## Blanks -/

inductive Blank
  | space
  | tab
  | feed
  | carriage

def Blank.octet : Blank → UInt8
  | .space => 0x20
  | .tab => 0x09
  | .feed => 0x0A
  | .carriage => 0x0D

abbrev Gap := List Blank

def Gap.octets (gap : Gap) : List UInt8 :=
  gap.map Blank.octet

theorem isBlank_octet (blank : Blank) : isBlank blank.octet = true := by
  cases blank <;> rfl

/-- A gap is skipped up to the mark behind it. -/
theorem skipBlanks_gap (gap : Gap) {octet : UInt8} {rest : List UInt8}
    (hoctet : isBlank octet = false) :
    skipBlanks (gap.octets ++ octet :: rest) = octet :: rest := by
  induction gap with
  | nil => exact skipBlanks_cons hoctet
  | cons blank gap ih => exact (List.dropWhile_cons_of_pos (isBlank_octet blank)).trans ih

theorem stops_mark (mark : UInt8) (rest : List UInt8)
    (hmark : isDigit mark = false ∧ mark ≠ 46 ∧ mark ≠ 101 ∧ mark ≠ 69) :
    Stops (mark :: rest) := by
  rintro octet ⟨⟩
  exact hmark

/-- A gap carries no number on. -/
theorem stops_gap (gap : Gap) {rest : List UInt8} (hrest : Stops rest) :
    Stops (gap.octets ++ rest) := by
  cases gap with
  | nil => exact hrest
  | cons blank gap => cases blank <;> exact stops_mark _ _ (by decide)

/-! ## Texts as trees -/

/-- A key in quotes, with the blanks in front of it and up to the colon. -/
structure Key where
  before : Gap
  glyphs : List Glyph
  after : Gap

def Key.octets (key : Key) : List UInt8 :=
  key.before.octets ++ 34 :: (key.glyphs.flatMap Glyph.octets ++ 34 :: key.after.octets)

mutual

inductive Script
  | null
  | bool (b : Bool)
  | number (figure : Figure)
  | string (glyphs : List Glyph)
  | emptyArray (inside : Gap)
  | array (items : Items)
  | emptyObject (inside : Gap)
  | object (members : Members)

/-- What stands behind the bracket of an array that has items. -/
inductive Items
  | last (before : Gap) (item : Script) (after : Gap)
  | next (before : Gap) (item : Script) (after : Gap) (more : Items)

/-- What stands behind the brace of an object that has members. -/
inductive Members
  | last (key : Key) (before : Gap) (value : Script) (after : Gap)
  | next (key : Key) (before : Gap) (value : Script) (after : Gap) (more : Members)

end

mutual

def Script.octets : Script → List UInt8
  | .null => [110, 117, 108, 108]
  | .bool true => [116, 114, 117, 101]
  | .bool false => [102, 97, 108, 115, 101]
  | .number figure => figure.octets
  | .string glyphs => 34 :: (glyphs.flatMap Glyph.octets ++ [34])
  | .emptyArray inside => 91 :: (inside.octets ++ [93])
  | .array items => 91 :: items.octets
  | .emptyObject inside => 123 :: (inside.octets ++ [125])
  | .object members => 123 :: members.octets

def Items.octets : Items → List UInt8
  | .last before item after => before.octets ++ (item.octets ++ (after.octets ++ [93]))
  | .next before item after more =>
    before.octets ++ (item.octets ++ (after.octets ++ 44 :: more.octets))

def Members.octets : Members → List UInt8
  | .last key before value after =>
    key.octets ++ 58 :: (before.octets ++ (value.octets ++ (after.octets ++ [125])))
  | .next key before value after more =>
    key.octets ++ 58 :: (before.octets ++ (value.octets ++ (after.octets ++ 44 :: more.octets)))

end

mutual

/-- The document that the text is read as. -/
def Script.document : Script → Document
  | .null => .null
  | .bool b => .bool b
  | .number figure => .number figure.numeral.value
  | .string glyphs => .string (closedText (glyphs.flatMap Glyph.pieces))
  | .emptyArray _ => .array [] none
  | .array items => .array items.documents none
  | .emptyObject _ => .object [] none
  | .object members => .object members.documents none

def Items.documents : Items → List Document
  | .last _ item _ => [item.document]
  | .next _ item _ more => item.document :: more.documents

def Members.documents : Members → List (Except Cause String × Document)
  | .last key _ value _ => [(closedText (key.glyphs.flatMap Glyph.pieces), value.document)]
  | .next key _ value _ more =>
    (closedText (key.glyphs.flatMap Glyph.pieces), value.document) :: more.documents

end

/-! ## Reading -/

/-- The first octet of a value is no blank and closes no array. -/
theorem Script.opens (script : Script) :
    ∃ octet after, script.octets = octet :: after ∧ isBlank octet = false ∧ octet ≠ 93 := by
  cases script with
  | null | string | emptyArray | array | emptyObject | object =>
    exact ⟨_, _, rfl, by decide, by decide⟩
  | bool b => cases b <;> exact ⟨_, _, rfl, by decide, by decide⟩
  | number figure =>
    obtain ⟨octet, after, hoctets, hfirst⟩ := figure.opens
    exact ⟨octet, after, hoctets, isBlank_of_number hfirst, ne_of_number hfirst _ (by decide)⟩

theorem scan_glyphs (glyphs : List Glyph) (rest : List UInt8) :
    scanString (glyphs.flatMap Glyph.octets ++ 34 :: rest) =
      ⟨glyphs.flatMap Glyph.pieces, .closed rest⟩ :=
  (Glyph.scans_all glyphs).closed rest

mutual

/-- By recursion on the tree. Behind a gap the text is read as without it. -/
theorem Script.reads (gap : Gap) : (script : Script) → {rest : List UInt8} → Stops rest →
    Reads (.value script.document) (gap.octets ++ (script.octets ++ rest)) rest
  | .null, _, _ =>
    .word (show (_, [110, 117, 108, 108]) ∈ words by simp [words, Script.document])
      (skipBlanks_gap gap rfl)
  | .bool true, _, _ =>
    .word (show (_, [116, 114, 117, 101]) ∈ words by simp [words, Script.document])
      (skipBlanks_gap gap rfl)
  | .bool false, _, _ =>
    .word (show (_, [102, 97, 108, 115, 101]) ∈ words by simp [words, Script.document])
      (skipBlanks_gap gap rfl)
  | .number figure, rest, hrest => by
    obtain ⟨octet, after, hoctets, hfirst⟩ := figure.opens
    have hscan := figure.scan_octets hrest
    rw [Script.octets]
    rw [hoctets] at hscan ⊢
    exact .number (skipBlanks_gap gap (isBlank_of_number hfirst)) hfirst hscan
  | .string glyphs, rest, _ => by
    rw [Script.octets, List.cons_append, List.append_assoc]
    exact .string (skipBlanks_gap gap rfl) (scan_glyphs glyphs rest)
  | .emptyArray inside, rest, _ => by
    rw [Script.octets, List.cons_append, List.append_assoc]
    exact .emptyArray (skipBlanks_gap gap rfl) (skipBlanks_gap inside rfl)
  | .array items, rest, _ => by
    obtain ⟨next, more, hnext, hmark, hitems⟩ := Items.reads items rest
    exact .array (skipBlanks_gap gap rfl) hnext hmark hitems
  | .emptyObject inside, rest, _ => by
    rw [Script.octets, List.cons_append, List.append_assoc]
    exact .emptyObject (skipBlanks_gap gap rfl) (skipBlanks_gap inside rfl)
  | .object members, rest, _ => by
    obtain ⟨more, hnext, hmembers⟩ := Members.reads members rest
    exact .object (skipBlanks_gap gap rfl) hnext hmembers

theorem Items.reads : (items : Items) → (rest : List UInt8) →
    ∃ next more, skipBlanks (items.octets ++ rest) = next :: more ∧ next ≠ 93 ∧
      Reads (.items items.documents) (next :: more) rest
  | .last before item after, rest => by
    obtain ⟨octet, later, hopen, hblank, hmark⟩ := item.opens
    have hitem := Script.reads [] item (stops_gap after (stops_mark 93 rest (by decide)))
    rw [hopen] at hitem
    refine ⟨octet, later ++ (after.octets ++ 93 :: rest), ?_, hmark,
      .lastItem hitem (skipBlanks_gap after rfl)⟩
    rw [Items.octets, hopen]
    simp only [List.append_assoc, List.cons_append, List.nil_append]
    exact skipBlanks_gap before hblank
  | .next before item after more, rest => by
    obtain ⟨octet, later, hopen, hblank, hmark⟩ := item.opens
    have hitem := Script.reads [] item
      (stops_gap after (stops_mark 44 (more.octets ++ rest) (by decide)))
    obtain ⟨next, tail, hnext, hopens, hitems⟩ := Items.reads more rest
    rw [hopen] at hitem
    refine ⟨octet, later ++ (after.octets ++ 44 :: (more.octets ++ rest)), ?_, hmark,
      .nextItem hitem (skipBlanks_gap after rfl) hnext hopens hitems⟩
    rw [Items.octets, hopen]
    simp only [List.append_assoc, List.cons_append]
    exact skipBlanks_gap before hblank

theorem Members.reads : (members : Members) → (rest : List UInt8) →
    ∃ more, skipBlanks (members.octets ++ rest) = 34 :: more ∧
      Reads (.members members.documents) more rest
  | .last key before value after, rest => by
    have hvalue := Script.reads before value (stops_gap after (stops_mark 125 rest (by decide)))
    refine ⟨_, ?_, .lastMember (scan_glyphs key.glyphs _) (skipBlanks_gap key.after rfl) hvalue
      (skipBlanks_gap after rfl)⟩
    simp only [Members.octets, Key.octets, List.append_assoc, List.cons_append, List.nil_append]
    exact skipBlanks_gap key.before rfl
  | .next key before value after more, rest => by
    have hvalue := Script.reads before value
      (stops_gap after (stops_mark 44 (more.octets ++ rest) (by decide)))
    obtain ⟨tail, hnext, hmembers⟩ := Members.reads more rest
    refine ⟨_, ?_, .nextMember (scan_glyphs key.glyphs _) (skipBlanks_gap key.after rfl) hvalue
      (skipBlanks_gap after rfl) hnext hmembers⟩
    simp only [Members.octets, Key.octets, List.append_assoc, List.cons_append]
    exact skipBlanks_gap key.before rfl

end

mutual

/-- A reader that skips a text skips all of it, whatever its numbers and strings are. -/
theorem Script.skip_document : (script : Script) → script.document.skip = .ok ()
  | .null | .bool _ | .number _ | .string _ | .emptyArray _ | .emptyObject _ => rfl
  | .array items => by
    rw [Script.document, Document.skip, Items.skip_documents items]
    rfl
  | .object members => by
    rw [Script.document, Document.skip, Members.skip_documents members]
    rfl

theorem Items.skip_documents : (items : Items) → Document.skipItems items.documents = .ok ()
  | .last _ item _ => by
    rw [Items.documents, Document.skipItems, Script.skip_document item]
    rfl
  | .next _ item _ more => by
    rw [Items.documents, Document.skipItems, Script.skip_document item]
    exact Items.skip_documents more

theorem Members.skip_documents : (members : Members) →
    Document.skipMembers members.documents = .ok ()
  | .last _ _ value _ => by
    rw [Members.documents, Document.skipMembers, Script.skip_document value]
    rfl
  | .next _ _ value _ more => by
    rw [Members.documents, Document.skipMembers, Script.skip_document value]
    exact Members.skip_documents more

end

/-! ## What a text holds -/

def Items.list : Items → List Script
  | .last _ item _ => [item]
  | .next _ item _ more => item :: more.list

/-- The members by their names, in the order of the text. -/
def Members.list? : Members → Option (List (String × Script))
  | .last key _ value _ => do
    let name ← Glyph.text? key.glyphs
    return [(name, value)]
  | .next key _ value _ more => do
    let name ← Glyph.text? key.glyphs
    let members ← more.list?
    return (name, value) :: members

namespace Script

def isNull : Script → Bool
  | .null => true
  | _ => false

def flag? : Script → Option Bool
  | .bool b => some b
  | _ => none

def text? : Script → Option String
  | .string glyphs => Glyph.text? glyphs
  | _ => none

def int? : Script → Option Int
  | .number figure => figure.int?
  | _ => none

def items? : Script → Option (List Script)
  | .emptyArray _ => some []
  | .array items => some items.list
  | _ => none

def members? : Script → Option (List (String × Script))
  | .emptyObject _ => some []
  | .object members => members.list?
  | _ => none

end Script

/-! ## What is read of it -/

/-- Members as they are read. -/
def entries (members : List (String × Script)) : List (Except Cause String × Document) :=
  members.map fun member => (.ok member.1, member.2.document)

namespace Script

variable {script : Script}

theorem document_of_isNull (hnull : script.isNull = true) : script.document = .null := by
  cases script with
  | null => rfl
  | _ => cases hnull

theorem document_of_flag? {b : Bool} (hflag : script.flag? = some b) :
    script.document = .bool b := by
  cases script with
  | bool b =>
    cases hflag
    rfl
  | _ => cases hflag

theorem document_of_text? {s : String} (htext : script.text? = some s) :
    script.document = .string (.ok s) := by
  cases script with
  | string glyphs => exact congrArg Document.string (Glyph.closedText_pieces htext)
  | _ => cases htext

theorem document_of_int? {n : Int} (hint : script.int? = some n) (hn : IsWord n) :
    script.document = .number (.ok (.int n)) := by
  cases script with
  | number figure => exact congrArg Document.number (figure.value_numeral hint hn)
  | _ => cases hint

theorem documents_eq (items : Items) : items.documents = items.list.map document := by
  cases items with
  | last before item after => rfl
  | next before item after more => exact congrArg (item.document :: ·) (documents_eq more)

theorem document_of_items? {items : List Script} (hitems : script.items? = some items) :
    script.document = .array (items.map document) none := by
  cases script with
  | emptyArray inside =>
    cases hitems
    rfl
  | array items =>
    cases hitems
    exact congrArg (Document.array · none) (documents_eq items)
  | _ => cases hitems

theorem documents_of_list? : (members : Members) → {named : List (String × Script)} →
    members.list? = some named → members.documents = entries named
  | .last key _ value _, named, hlist => by
    obtain ⟨name, hname, hlist⟩ := Option.bind_eq_some_iff.mp hlist
    cases hlist
    rw [Members.documents, Glyph.closedText_pieces hname]
    rfl
  | .next key _ value _ more, named, hlist => by
    obtain ⟨name, hname, hlist⟩ := Option.bind_eq_some_iff.mp hlist
    obtain ⟨later, hlater, hlist⟩ := Option.bind_eq_some_iff.mp hlist
    cases hlist
    rw [Members.documents, Glyph.closedText_pieces hname, documents_of_list? more hlater]
    rfl

theorem document_of_members? {members : List (String × Script)}
    (hmembers : script.members? = some members) :
    script.document = .object (entries members) none := by
  cases script with
  | emptyObject inside =>
    cases hmembers
    rfl
  | object members => exact congrArg (Document.object · none) (documents_of_list? members hmembers)
  | _ => cases hmembers

end Script

end Telemetry.Json
