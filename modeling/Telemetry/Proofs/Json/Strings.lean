import Telemetry.Proofs.Utf8
import Telemetry.Json.Reader

/-!
How strings are read: their octets become pieces, and the pieces are spelled. Both are
said in front of whatever follows, so that what holds of each piece holds of them all; and
a string that is closed is its pieces and its quote, whatever follows the quote.
-/

namespace Telemetry.Json

open Utf8

/-! ## Pieces -/

/-- In front of any octets of a string these give these pieces. -/
def Scans (octets : List UInt8) (pieces : List Piece) : Prop :=
  ∀ rest, scanString (octets ++ rest) =
    ⟨pieces ++ (scanString rest).pieces, (scanString rest).ending⟩

/-- In front of any pieces these spell these octets. -/
def Spells (pieces : List Piece) (octets : List UInt8) : Prop :=
  ∀ ending later text, spell ending none later = .ok text →
    spell ending none (pieces ++ later) = .ok (octets ++ text)

theorem Scans.nil : Scans [] [] :=
  fun _ => rfl

theorem Scans.append {first second : List UInt8} {before after : List Piece}
    (hfirst : Scans first before) (hsecond : Scans second after) :
    Scans (first ++ second) (before ++ after) := by
  intro rest
  rw [List.append_assoc, hfirst, hsecond, List.append_assoc]

theorem Spells.nil : Spells [] [] :=
  fun _ _ _ hlater => hlater

theorem Spells.append {before after : List Piece} {first second : List UInt8}
    (hbefore : Spells before first) (hafter : Spells after second) :
    Spells (before ++ after) (first ++ second) := by
  intro ending later text hlater
  rw [List.append_assoc, List.append_assoc]
  exact hbefore ending _ _ (hafter ending later text hlater)

theorem scans_bare {octet : UInt8} (hquote : octet ≠ 34) (hcontrol : ¬ octet < 0x20)
    (hescape : octet ≠ 92) : Scans [octet] [.octet octet] := by
  intro rest
  rw [List.singleton_append, scanString.eq_def]
  dsimp only
  rw [if_neg hquote, if_neg hcontrol, if_pos hescape]
  rfl

theorem scans_plainEscape {mark octet : UInt8} (hmark : mark ≠ 117)
    (hplain : plainEscape? mark = some octet) : Scans [92, mark] [.octet octet] := by
  intro rest
  rw [List.cons_append, List.singleton_append, scanString.eq_def]
  dsimp only
  rw [if_neg (by decide), if_neg (by decide), if_neg (by decide), if_neg hmark, hplain]
  rfl

theorem scans_hexUnit {a b c d : UInt8} {code : Nat} (hunit : hexUnit? a b c d = some code) :
    Scans [92, 117, a, b, c, d] [.unit code] := by
  intro rest
  simp only [List.cons_append, List.nil_append]
  rw [scanString.eq_def]
  dsimp only
  rw [if_neg (by decide), if_neg (by decide), if_neg (by decide), if_pos rfl, hunit]
  rfl

theorem scans_bares {octets : List UInt8}
    (hbare : ∀ octet ∈ octets, octet ≠ 34 ∧ ¬ octet < 0x20 ∧ octet ≠ 92) :
    Scans octets (octets.map .octet) := by
  induction octets with
  | nil => exact Scans.nil
  | cons octet octets ih =>
    obtain ⟨⟨hquote, hcontrol, hescape⟩, hrest⟩ := List.forall_mem_cons.mp hbare
    exact (scans_bare hquote hcontrol hescape).append (ih hrest)

theorem spells_octets (octets : List UInt8) : Spells (octets.map .octet) octets := by
  intro ending later text hlater
  induction octets with
  | nil => exact hlater
  | cons octet octets ih =>
    rw [List.map_cons, List.cons_append, spell, ih]
    rfl

/-- A unit that is no half of a pair. -/
theorem spells_unit {code : Nat} (hcode : ¬ (0xD800 ≤ code ∧ code ≤ 0xDFFF)) :
    Spells [.unit code] (encodeChar (Char.ofNat code)) := by
  intro ending later text hlater
  rw [List.singleton_append, spell, if_neg (by omega), if_neg (by omega), hlater]
  rfl

/-! ## Closed strings -/

/-- One more piece in front of a string that is closed. -/
theorem exists_scans_cons {front tail rest : List UInt8} {piece : Piece} {pieces : List Piece}
    (hfront : Scans front [piece])
    (hscan : (scanString tail).cons piece = ⟨pieces, .closed rest⟩)
    (hclosed : ∀ {pieces : List Piece}, scanString tail = ⟨pieces, .closed rest⟩ →
      ∃ body, tail = body ++ 34 :: rest ∧ Scans body pieces) :
    ∃ body, front ++ tail = body ++ 34 :: rest ∧ Scans body pieces := by
  cases hscanned : scanString tail with
  | mk later ending =>
    rw [hscanned] at hscan
    cases hscan
    obtain ⟨body, htail, hbody⟩ := hclosed hscanned
    refine ⟨front ++ body, ?_, hfront.append hbody⟩
    rw [htail, List.append_assoc]

/-- A closed string is its pieces and its closing quote. -/
theorem exists_scans_of_closed {octets rest : List UInt8} {pieces : List Piece}
    (hscan : scanString octets = ⟨pieces, .closed rest⟩) :
    ∃ body, octets = body ++ 34 :: rest ∧ Scans body pieces := by
  fun_induction scanString octets generalizing pieces with
  | case2 rest =>
    cases hscan
    exact ⟨[], rfl, Scans.nil⟩
  | case4 octet tail hquote hcontrol hescape ih =>
    exact exists_scans_cons (scans_bare hquote hcontrol hescape) hscan ih
  | case6 octet _ _ hescape a b c d tail code hunit ih =>
    rw [Decidable.not_not.mp hescape]
    exact exists_scans_cons (scans_hexUnit hunit) hscan ih
  | case9 octet _ _ hescape mark tail hmark plain hplain ih =>
    rw [Decidable.not_not.mp hescape]
    exact exists_scans_cons (scans_plainEscape hmark hplain) hscan ih
  | case1 | case3 | case5 | case7 | case8 | case10 => cases hscan

theorem Scans.closed {body : List UInt8} {pieces : List Piece} (hbody : Scans body pieces)
    (rest : List UInt8) : scanString (body ++ 34 :: rest) = ⟨pieces, .closed rest⟩ := by
  have hclose : scanString (34 :: rest) = ⟨[], .closed rest⟩ := by
    rw [scanString.eq_def]
    exact if_pos rfl
  rw [hbody, hclose, List.append_nil]

section

variable {octets rest : List UInt8} {pieces : List Piece}
  (hscan : scanString octets = ⟨pieces, .closed rest⟩)

include hscan

theorem length_scanString : rest.length < octets.length := by
  obtain ⟨body, rfl, _⟩ := exists_scans_of_closed hscan
  rw [List.length_append, List.length_cons]
  omega

theorem scanString_append (later : List UInt8) :
    scanString (octets ++ later) = ⟨pieces, .closed (rest ++ later)⟩ := by
  obtain ⟨body, rfl, hbody⟩ := exists_scans_of_closed hscan
  rw [List.append_assoc]
  exact hbody.closed (rest ++ later)

end

/-- How a closed string is spelled does not depend on what follows it. -/
theorem spell_closed (rest : List UInt8) (pieces : List Piece) (lead : Option Nat) :
    spell (.closed rest) lead pieces = spell (.closed []) lead pieces := by
  induction pieces generalizing lead with
  | nil => cases lead <;> rfl
  | cons piece pieces ih =>
    cases lead with
    | none =>
      cases piece with
      | octet octet => rw [spell, spell, ih]
      | unit code => rw [spell, spell, ih, ih]
    | some lead =>
      cases piece with
      | octet octet => rfl
      | unit code => rw [spell, spell, ih]

/-- The text of a string that was read to its closing quote. -/
def closedText (pieces : List Piece) : Except Cause String :=
  Pieces.text ⟨pieces, .closed []⟩

theorem text_closed (pieces : List Piece) (rest : List UInt8) :
    (⟨pieces, .closed rest⟩ : Pieces).text = closedText pieces := by
  rw [closedText, Pieces.text, Pieces.text, spell_closed]

/-- What the pieces spell is the text, if it is one. -/
theorem Spells.closedText {pieces : List Piece} {octets : List UInt8} {s : String}
    (hspells : Spells pieces octets) (hdecode : Utf8.decode octets = .ok s) :
    closedText pieces = .ok s := by
  have hspelled := hspells (.closed []) [] [] rfl
  rw [List.append_nil, List.append_nil] at hspelled
  rw [Json.closedText, Pieces.text, hspelled]
  dsimp only [bind, Except.bind]
  rw [hdecode]

end Telemetry.Json
