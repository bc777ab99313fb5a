import Telemetry.Proofs.Json.Strings

/-!
The characters of a string as they may stand in a text: each as it is, behind a backslash
if it has an escape of one letter, or by its code, and past 16 bits by the codes of two
halves. A half alone is well formed, but the string is then none.
-/

namespace Telemetry.Json

open Utf8

/-! ## Escapes by code -/

structure HexDigit where
  value : Fin 16
  capital : Bool

def HexDigit.octet (digit : HexDigit) : UInt8 :=
  .ofNat (digit.value.val + if digit.value.val < 10 then 48 else if digit.capital then 55 else 87)

theorem HexDigit.value?_octet (digit : HexDigit) :
    Hex.value? digit.octet.toNat = some digit.value.val := by
  have hall : ∀ value : Fin 16, ∀ capital : Bool,
      Hex.value? (HexDigit.octet ⟨value, capital⟩).toNat = some value.val := by decide
  exact hall digit.value digit.capital

structure CodeUnit where
  first : HexDigit
  second : HexDigit
  third : HexDigit
  fourth : HexDigit

namespace CodeUnit

def code (unit : CodeUnit) : Nat :=
  ((unit.first.value.val * 16 + unit.second.value.val) * 16 + unit.third.value.val) * 16 +
    unit.fourth.value.val

def octets (unit : CodeUnit) : List UInt8 :=
  [92, 117, unit.first.octet, unit.second.octet, unit.third.octet, unit.fourth.octet]

theorem scans (unit : CodeUnit) : Scans unit.octets [.unit unit.code] := by
  refine scans_hexUnit ?_
  simp only [hexUnit?, HexDigit.value?_octet, Option.bind_eq_bind, Option.bind_some,
    Option.pure_def, code]

end CodeUnit

/-! ## Glyphs -/

/-- The characters that have an escape of one letter. -/
inductive ShortEscape
  | quote
  | backslash
  | slash
  | backspace
  | form
  | feed
  | carriage
  | tab

namespace ShortEscape

def char : ShortEscape → Char
  | .quote => '"'
  | .backslash => '\\'
  | .slash => '/'
  | .backspace => '\x08'
  | .form => '\x0c'
  | .feed => '\n'
  | .carriage => '\r'
  | .tab => '\t'

def letter : ShortEscape → Char
  | .quote => '"'
  | .backslash => '\\'
  | .slash => '/'
  | .backspace => 'b'
  | .form => 'f'
  | .feed => 'n'
  | .carriage => 'r'
  | .tab => 't'

theorem scans (escape : ShortEscape) :
    Scans (92 :: encodeChar escape.letter) ((encodeChar escape.char).map .octet) := by
  have hmark : encodeChar escape.letter = [.ofNat escape.letter.toNat] := by cases escape <;> rfl
  have hoctet : encodeChar escape.char = [.ofNat escape.char.toNat] := by cases escape <;> rfl
  rw [hmark, hoctet]
  refine scans_plainEscape ?_ ?_
  · cases escape <;> decide
  · cases escape <;> decide

end ShortEscape

inductive Glyph
  | bare (c : Char) (hbare : c ≠ '"' ∧ c ≠ '\\' ∧ 0x20 ≤ c.toNat)
  | short (escape : ShortEscape)
  | coded (unit : CodeUnit)
  | pair (lead trail : CodeUnit) (hlead : 0xD800 ≤ lead.code ∧ lead.code ≤ 0xDBFF)
      (htrail : 0xDC00 ≤ trail.code ∧ trail.code ≤ 0xDFFF)

namespace Glyph

def octets : Glyph → List UInt8
  | .bare c _ => encodeChar c
  | .short escape => 92 :: encodeChar escape.letter
  | .coded unit => unit.octets
  | .pair lead trail _ _ => lead.octets ++ trail.octets

/-- The character that is meant, unless this is half of one. -/
def char? : Glyph → Option Char
  | .bare c _ => some c
  | .short escape => some escape.char
  | .coded unit =>
    if 0xD800 ≤ unit.code ∧ unit.code ≤ 0xDFFF then none else some (Char.ofNat unit.code)
  | .pair lead trail _ _ =>
    some (Char.ofNat (0x10000 + (lead.code - 0xD800) * 0x400 + (trail.code - 0xDC00)))

def pieces : Glyph → List Piece
  | .bare c _ => (encodeChar c).map .octet
  | .short escape => (encodeChar escape.char).map .octet
  | .coded unit => [.unit unit.code]
  | .pair lead trail _ _ => [.unit lead.code, .unit trail.code]

end Glyph

/-- What is no mark of a string stands in it as it is. -/
theorem scans_char {c : Char} (hquote : c ≠ '"') (hslash : c ≠ '\\') (hc : 0x20 ≤ c.toNat) :
    Scans (encodeChar c) ((encodeChar c).map .octet) := by
  refine scans_bares fun octet hmember => ?_
  by_cases hascii : c.toNat < 0x80
  · rw [encodeChar_ascii hascii, List.mem_singleton] at hmember
    have hoctet : octet.toNat = c.toNat := by
      rw [hmember, toNat_ofNat (by omega)]
    refine ⟨?_, ?_, ?_⟩
    · rintro rfl
      exact hquote (Char.toNat_inj.mp hoctet.symm)
    · rw [UInt8.lt_iff_toNat_lt, hoctet]
      exact Nat.not_lt.mpr hc
    · rintro rfl
      exact hslash (Char.toNat_inj.mp hoctet.symm)
  · have hoctet := le_of_mem_encodeChar (Nat.not_lt.mp hascii) hmember
    refine ⟨?_, ?_, ?_⟩
    · rintro rfl
      exact absurd hoctet (by decide)
    · rw [UInt8.lt_iff_toNat_lt]
      exact Nat.not_lt.mpr (Nat.le_trans (by decide) hoctet)
    · rintro rfl
      exact absurd hoctet (by decide)

/-- Two halves of a character. -/
theorem spells_pair {lead trail : Nat} (hlead : 0xD800 ≤ lead ∧ lead ≤ 0xDBFF)
    (htrail : 0xDC00 ≤ trail ∧ trail ≤ 0xDFFF) :
    Spells [.unit lead, .unit trail]
      (encodeChar (Char.ofNat (0x10000 + (lead - 0xD800) * 0x400 + (trail - 0xDC00)))) := by
  intro ending later text hlater
  rw [List.cons_append, spell, if_neg (by omega), if_pos hlead, List.singleton_append, spell,
    if_pos htrail, hlater]
  rfl

namespace Glyph

theorem scans (glyph : Glyph) : Scans glyph.octets glyph.pieces := by
  cases glyph with
  | bare c hbare => exact scans_char hbare.1 hbare.2.1 hbare.2.2
  | short escape => exact escape.scans
  | coded unit => exact unit.scans
  | pair lead trail => exact lead.scans.append trail.scans

theorem spells {glyph : Glyph} {c : Char} (hchar : glyph.char? = some c) :
    Spells glyph.pieces (encodeChar c) := by
  cases glyph with
  | bare =>
    cases hchar
    exact spells_octets _
  | short =>
    cases hchar
    exact spells_octets _
  | coded unit =>
    rw [char?] at hchar
    split at hchar
    next => cases hchar
    next hhalf =>
      cases hchar
      exact spells_unit hhalf
  | pair lead trail hlead htrail =>
    rw [char?, Option.some.injEq] at hchar
    rw [← hchar]
    exact spells_pair hlead htrail

/-- The text that glyphs mean together, unless there is half a character alone. -/
def text? (glyphs : List Glyph) : Option String :=
  (glyphs.mapM char?).map String.ofList

theorem scans_all (glyphs : List Glyph) :
    Scans (glyphs.flatMap octets) (glyphs.flatMap pieces) := by
  induction glyphs with
  | nil => exact Scans.nil
  | cons glyph glyphs ih => exact glyph.scans.append ih

theorem spells_all {glyphs : List Glyph} {cs : List Char} (hchars : glyphs.mapM char? = some cs) :
    Spells (glyphs.flatMap pieces) (encodeChars cs) := by
  induction glyphs generalizing cs with
  | nil =>
    cases hchars
    exact Spells.nil
  | cons glyph glyphs ih =>
    rw [List.mapM_cons] at hchars
    obtain ⟨c, hchar, hchars⟩ := Option.bind_eq_some_iff.mp hchars
    obtain ⟨later, hlater, hchars⟩ := Option.bind_eq_some_iff.mp hchars
    cases hchars
    exact (spells hchar).append (ih hlater)

/-- Glyphs that mean a text are read as that text. -/
theorem closedText_pieces {glyphs : List Glyph} {s : String} (htext : text? glyphs = some s) :
    closedText (glyphs.flatMap pieces) = .ok s := by
  obtain ⟨cs, hchars, rfl⟩ := Option.map_eq_some_iff.mp htext
  refine (spells_all hchars).closedText ?_
  have hdecode := decode_encode (String.ofList cs)
  rwa [encode, String.toList_ofList] at hdecode

end Glyph

/-! ## Characters as they are written -/

def CodeUnit.ofCode (code : Nat) (capital : Bool) : CodeUnit :=
  ⟨⟨Fin.ofNat 16 (code / 0x1000), capital⟩, ⟨Fin.ofNat 16 (code / 0x100), capital⟩,
    ⟨Fin.ofNat 16 (code / 0x10), capital⟩, ⟨Fin.ofNat 16 code, capital⟩⟩

/-- The escape of a control character by its code. -/
theorem CodeUnit.ofCode_control {code : Nat} (hcode : code < 0x20) :
    (CodeUnit.ofCode code false).octets = encodeChars ['\\', 'u', '0', '0',
      if code < 0x10 then '0' else '1', Nat.digitChar (code % 16)] ∧
      (CodeUnit.ofCode code false).code = code := by
  have hall : ∀ code < 0x20,
      (CodeUnit.ofCode code false).octets = encodeChars ['\\', 'u', '0', '0',
        if code < 0x10 then '0' else '1', Nat.digitChar (code % 16)] ∧
      (CodeUnit.ofCode code false).code = code := by decide
  exact hall code hcode

namespace Glyph

/-- The glyph that is written for a character. -/
def written (c : Char) : Glyph :=
  if hquote : c = '"' then .short .quote
  else if hslash : c = '\\' then .short .backslash
  else if hcontrol : c.toNat < 0x20 then
    if c.toNat = 8 then .short .backspace
    else if c.toNat = 9 then .short .tab
    else if c.toNat = 10 then .short .feed
    else if c.toNat = 12 then .short .form
    else if c.toNat = 13 then .short .carriage
    else .coded (.ofCode c.toNat false)
  else .bare c ⟨hquote, hslash, Nat.not_lt.mp hcontrol⟩

theorem octets_written (c : Char) : (written c).octets = encodeChars (escape c) := by
  unfold written escape
  split
  next => rfl
  split
  next => rfl
  split
  next hcontrol =>
    split
    next => rfl
    split
    next => rfl
    split
    next => rfl
    split
    next => rfl
    split
    next => rfl
    next => exact (CodeUnit.ofCode_control hcontrol).1
  next => exact (List.append_nil _).symm

theorem char?_written (c : Char) : (written c).char? = some c := by
  have hsame : ∀ n, c.toNat = n → Char.ofNat n = c := fun n hn => hn ▸ Char.ofNat_toNat c
  unfold written
  split
  next hquote => exact congrArg some hquote.symm
  split
  next hslash => exact congrArg some hslash.symm
  split
  next hcontrol =>
    split
    next h => exact congrArg some (hsame 8 h)
    split
    next h => exact congrArg some (hsame 9 h)
    split
    next h => exact congrArg some (hsame 10 h)
    split
    next h => exact congrArg some (hsame 12 h)
    split
    next h => exact congrArg some (hsame 13 h)
    next =>
      rw [char?, (CodeUnit.ofCode_control hcontrol).2, if_neg (by omega), Char.ofNat_toNat]
  next => rfl

/-- The glyphs that are written for a text. -/
def ofText (s : String) : List Glyph :=
  s.toList.map written

theorem text?_ofText (s : String) : text? (ofText s) = some s := by
  have hchars : ∀ cs : List Char, (cs.map written).mapM char? = some cs := by
    intro cs
    induction cs with
    | nil => rfl
    | cons c cs ih =>
      rw [List.map_cons, List.mapM_cons, char?_written, ih]
      rfl
  rw [text?, ofText, hchars, Option.map_some, String.ofList_toList]

theorem quoted_ofText (s : String) :
    34 :: ((ofText s).flatMap octets ++ [34]) = encodeChars (quoted s) := by
  have hescapes : (ofText s).flatMap octets = encodeChars (s.toList.flatMap escape) := by
    rw [ofText, List.flatMap_map, encodeChars, List.flatMap_assoc]
    exact congrArg (s.toList.flatMap ·) (funext octets_written)
  rw [hescapes, quoted, encodeChars_cons, encodeChars_append]
  rfl

end Glyph

end Telemetry.Json
