import Mathlib.Data.List.TakeWhile
import Telemetry.Proofs.Json.Script

/-!
A text that has been read is read alike when it goes on. Only a number at its very end
may take up more octets; everything else closes with a mark of its own, and what comes
after that mark is looked at only to see whether there is anything but blanks.
-/

namespace Telemetry.Json

/-- A number may have more digits; everything else ends with a mark of its own. -/
def Part.IsNumber : Part → Prop
  | .value (.number _) => True
  | _ => False

/-- What was read stays so when more follows, unless it is a number at the very end. -/
theorem Reads.append {part : Part} {octets rest : List UInt8} (hreads : Reads part octets rest)
    (hend : rest = [] → ¬ part.IsNumber) (later : List UInt8) :
    Reads part (octets ++ later) (rest ++ later) := by
  induction hreads with
  | word hword hoctets =>
    obtain ⟨octet, word, rfl⟩ := List.exists_cons_of_ne_nil (ne_nil_of_words hword)
    refine .word hword ?_
    rw [skipBlanks_append hoctets, ← List.append_assoc]
    rfl
  | string hquote hscan =>
    exact .string (skipBlanks_append hquote later) (scanString_append hscan later)
  | number hoctets hfirst hscan =>
    have hsteady := (steady_scanNumber hscan).2 (fun hnil => hend hnil trivial) later
    exact .number (skipBlanks_append hoctets later) hfirst hsteady
  | emptyArray hopen hclose =>
    exact .emptyArray (skipBlanks_append hopen later) (skipBlanks_append hclose later)
  | array hopen hnext hmark _ ih =>
    exact .array (skipBlanks_append hopen later) (skipBlanks_append hnext later) hmark
      (ih fun _ => id)
  | emptyObject hopen hclose =>
    exact .emptyObject (skipBlanks_append hopen later) (skipBlanks_append hclose later)
  | object hopen hnext _ ih =>
    exact .object (skipBlanks_append hopen later) (skipBlanks_append hnext later)
      (ih fun _ => id)
  | lastItem _ hclose ih =>
    exact .lastItem (ih (absurd · (ne_nil_of_skipBlanks hclose))) (skipBlanks_append hclose later)
  | nextItem _ hcomma hnext hmark _ ih ihs =>
    exact .nextItem (ih (absurd · (ne_nil_of_skipBlanks hcomma))) (skipBlanks_append hcomma later)
      (skipBlanks_append hnext later) hmark (ihs fun _ => id)
  | lastMember hkey hcolon _ hclose ih =>
    exact .lastMember (scanString_append hkey later) (skipBlanks_append hcolon later)
      (ih (absurd · (ne_nil_of_skipBlanks hclose))) (skipBlanks_append hclose later)
  | nextMember hkey hcolon _ hcomma hnext _ ih ihs =>
    exact .nextMember (scanString_append hkey later) (skipBlanks_append hcolon later)
      (ih (absurd · (ne_nil_of_skipBlanks hcomma))) (skipBlanks_append hcomma later)
      (skipBlanks_append hnext later) (ihs fun _ => id)

/-! ## Whole texts -/

section

variable {ε α : Type} {wrong : Cause → ε} {use : Document → Except ε α} {octets rest : List UInt8}
  {document : Document} {value : α}

theorem isEmpty_skipBlanks (octets : List UInt8) :
    (skipBlanks octets).isEmpty = octets.all isBlank := by
  rw [Bool.eq_iff_iff, List.isEmpty_iff, List.all_eq_true, skipBlanks]
  exact List.dropWhile_eq_nil_iff

theorem readText_of_reads (hreads : Reads (.value document) octets rest)
    (huse : use document = .ok value) :
    readText octets wrong use =
      if rest.all isBlank then .ok value else .error (wrong .trailingCharacters) := by
  rw [readText, readDocument_eq_ok_iff.mpr hreads]
  dsimp only
  rw [huse, ← isEmpty_skipBlanks]
  rfl

theorem exists_reads_of_readText (hread : readText octets wrong use = .ok value) :
    ∃ document rest, Reads (.value document) octets rest ∧ use document = .ok value ∧
      rest.all isBlank = true := by
  obtain ⟨used, huse, hread⟩ := ok_of_bind_ok hread
  cases hdocument : readDocument octets with
  | mk document left =>
    rw [hdocument] at huse hread
    cases left with
    | error place => cases hread
    | ok rest =>
      dsimp only at hread
      split at hread
      next hempty =>
        cases hread
        rw [isEmpty_skipBlanks] at hempty
        exact ⟨document, rest, readDocument_eq_ok_iff.mp hdocument, huse, hempty⟩
      next => cases hread

/-- A text that is read goes on to be read if it goes on with blanks, and with anything
else it is refused. -/
theorem readText_append (hnumber : ∀ number value, use (.number number) ≠ .ok value)
    (hread : readText octets wrong use = .ok value) (later : List UInt8) :
    readText (octets ++ later) wrong use =
      if later.all isBlank then .ok value else .error (wrong .trailingCharacters) := by
  obtain ⟨document, rest, hreads, huse, hblank⟩ := exists_reads_of_readText hread
  have hopen : ¬ (Part.value document).IsNumber := by
    cases document with
    | number number => exact fun _ => hnumber number value huse
    | _ => exact id
  rw [readText_of_reads (hreads.append (fun _ => hopen) later) huse, List.all_append, hblank,
    Bool.true_and]

/-- A text with blanks around it is read as its document. -/
theorem readText_script {script : Script} (huse : use script.document = .ok value)
    (before after : Gap) :
    readText (before.octets ++ (script.octets ++ after.octets)) wrong use = .ok value := by
  have hstops : Stops (after.octets ++ []) := stops_gap after nofun
  rw [List.append_nil] at hstops
  have hblank : after.octets.all isBlank = true := by
    rw [Gap.octets, List.all_map]
    exact List.all_eq_true.mpr fun blank _ => isBlank_octet blank
  rw [readText_of_reads (script.reads before hstops) huse, if_pos hblank]

end

end Telemetry.Json
