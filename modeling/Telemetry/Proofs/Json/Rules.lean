import Telemetry.Proofs.Json.Numbers

/-!
Reading as rules: what a value, the items of an array and the members of an object are
in front of any octets. The rules have no bound on the steps, and the reader gets exactly
what they give, because it has two steps for every octet.
-/

namespace Telemetry.Json

/-- What is read at one place: a value, the items of an array from one of them on, or the
members of an object from behind the opening quote of one of them on. -/
inductive Part
  | value (document : Document)
  | items (documents : List Document)
  | members (entries : List (Except Cause String × Document))

def words : List (Document × List UInt8) :=
  [(.null, [110, 117, 108, 108]), (.bool true, [116, 114, 117, 101]),
    (.bool false, [102, 97, 108, 115, 101])]

/-- A part stands at the front of the first octets and ends where the second ones begin. -/
inductive Reads : Part → List UInt8 → List UInt8 → Prop
  | word {document : Document} {word octets rest : List UInt8}
      (hword : (document, word) ∈ words) (hoctets : skipBlanks octets = word ++ rest) :
      Reads (.value document) octets rest
  | string {octets after rest : List UInt8} {pieces : List Piece}
      (hquote : skipBlanks octets = 34 :: after)
      (hscan : scanString after = ⟨pieces, .closed rest⟩) :
      Reads (.value (.string (closedText pieces))) octets rest
  | number {octets after rest : List UInt8} {octet : UInt8} {numeral : Numeral}
      (hoctets : skipBlanks octets = octet :: after) (hfirst : octet = 45 ∨ isDigit octet = true)
      (hscan : scanNumber (octet :: after) = .ok (numeral, rest)) :
      Reads (.value (.number numeral.value)) octets rest
  | emptyArray {octets after rest : List UInt8} (hopen : skipBlanks octets = 91 :: after)
      (hclose : skipBlanks after = 93 :: rest) : Reads (.value (.array [] none)) octets rest
  | array {octets after more rest : List UInt8} {next : UInt8} {documents : List Document}
      (hopen : skipBlanks octets = 91 :: after) (hnext : skipBlanks after = next :: more)
      (hmark : next ≠ 93) (hitems : Reads (.items documents) (next :: more) rest) :
      Reads (.value (.array documents none)) octets rest
  | emptyObject {octets after rest : List UInt8} (hopen : skipBlanks octets = 123 :: after)
      (hclose : skipBlanks after = 125 :: rest) : Reads (.value (.object [] none)) octets rest
  | object {octets after more rest : List UInt8}
      {entries : List (Except Cause String × Document)}
      (hopen : skipBlanks octets = 123 :: after) (hnext : skipBlanks after = 34 :: more)
      (hmembers : Reads (.members entries) more rest) :
      Reads (.value (.object entries none)) octets rest
  | lastItem {octets after rest : List UInt8} {document : Document}
      (hitem : Reads (.value document) octets after) (hclose : skipBlanks after = 93 :: rest) :
      Reads (.items [document]) octets rest
  | nextItem {octets after more later rest : List UInt8} {next : UInt8} {document : Document}
      {documents : List Document} (hitem : Reads (.value document) octets after)
      (hcomma : skipBlanks after = 44 :: more) (hnext : skipBlanks more = next :: later)
      (hmark : next ≠ 93) (hitems : Reads (.items documents) (next :: later) rest) :
      Reads (.items (document :: documents)) octets rest
  | lastMember {octets after colon more rest : List UInt8} {pieces : List Piece}
      {document : Document} (hkey : scanString octets = ⟨pieces, .closed after⟩)
      (hcolon : skipBlanks after = 58 :: colon) (hvalue : Reads (.value document) colon more)
      (hclose : skipBlanks more = 125 :: rest) :
      Reads (.members [(closedText pieces, document)]) octets rest
  | nextMember {octets after colon more comma later rest : List UInt8} {pieces : List Piece}
      {document : Document} {entries : List (Except Cause String × Document)}
      (hkey : scanString octets = ⟨pieces, .closed after⟩)
      (hcolon : skipBlanks after = 58 :: colon) (hvalue : Reads (.value document) colon more)
      (hcomma : skipBlanks more = 44 :: comma) (hnext : skipBlanks comma = 34 :: later)
      (hmembers : Reads (.members entries) later rest) :
      Reads (.members ((closedText pieces, document) :: entries)) octets rest

/-! ## Blanks -/

theorem skipBlanks_cons {octet : UInt8} {rest : List UInt8} (hoctet : isBlank octet = false) :
    skipBlanks (octet :: rest) = octet :: rest :=
  List.dropWhile_cons_of_neg (by rw [hoctet]; decide)

theorem length_skipBlanks_le (octets : List UInt8) :
    (skipBlanks octets).length ≤ octets.length :=
  (List.dropWhile_sublist isBlank).length_le

section

variable {octets after : List UInt8} {next : UInt8}

theorem length_skipBlanks (hskip : skipBlanks octets = next :: after) :
    after.length < octets.length := by
  have hlength := length_skipBlanks_le octets
  rw [hskip, List.length_cons] at hlength
  omega

theorem ne_nil_of_skipBlanks (hskip : skipBlanks octets = next :: after) : octets ≠ [] := by
  rintro rfl
  cases hskip

/-- What stops the blanks stops them whatever follows it. -/
theorem skipBlanks_append (hskip : skipBlanks octets = next :: after) (later : List UInt8) :
    skipBlanks (octets ++ later) = next :: (after ++ later) := by
  rw [skipBlanks] at hskip ⊢
  rw [List.dropWhile_append, hskip]
  rfl

end

/-! ## Words -/

theorem scanWord_eq_ok_iff {word octets rest : List UInt8} :
    scanWord word octets = .ok rest ↔ octets = word ++ rest := by
  induction word generalizing octets with
  | nil => exact ⟨fun hscan => Except.ok.inj hscan, congrArg Except.ok⟩
  | cons due more ih =>
    cases octets with
    | nil => exact ⟨nofun, nofun⟩
    | cons octet octets =>
      rw [scanWord, List.cons_append, List.cons.injEq]
      split
      next hdue => rw [ih, and_iff_right hdue]
      next hdue => exact ⟨nofun, fun heq => absurd heq.1 hdue⟩

/-! ## What the reader takes is what the rules give -/

theorem reads_of_readWord {document read : Document} {word octets rest : List UInt8}
    {octet : UInt8} {after : List UInt8} (hword : (document, word) ∈ words)
    (hoctets : skipBlanks octets = octet :: after)
    (hread : readWord document word (octet :: after) = ⟨read, .ok rest⟩) :
    Reads (.value read) octets rest := by
  rw [readWord] at hread
  split at hread
  next hscan =>
    cases hread
    exact .word hword (hoctets.trans (scanWord_eq_ok_iff.mp hscan))
  next => cases hread

theorem reads_of_readString {document : Document} {octets after rest : List UInt8}
    (hquote : skipBlanks octets = 34 :: after)
    (hread : readString after = ⟨document, .ok rest⟩) : Reads (.value document) octets rest := by
  rw [readString] at hread
  cases hscan : scanString after with
  | mk pieces ending =>
    rw [hscan] at hread
    cases ending with
    | broken => cases hread
    | closed left =>
      cases hread
      rw [text_closed]
      exact .string hquote hscan

theorem reads_of_readNumber {document : Document} {octets after rest : List UInt8}
    {octet : UInt8} (hoctets : skipBlanks octets = octet :: after)
    (hfirst : octet = 45 ∨ isDigit octet = true)
    (hread : readNumber (octet :: after) = ⟨document, .ok rest⟩) :
    Reads (.value document) octets rest := by
  rw [readNumber] at hread
  split at hread
  next hscan =>
    cases hread
    exact .number hoctets hfirst hscan
  next => cases hread

mutual

theorem reads_of_readValue : {steps : Nat} → {octets rest : List UInt8} → {document : Document} →
    readValue steps octets = ⟨document, .ok rest⟩ → Reads (.value document) octets rest
  | 0, _, _, _, hread => by cases hread
  | steps + 1, octets, rest, document, hread => by
    rw [readValue] at hread
    split at hread
    next => cases hread
    next octet after hoctets =>
      split at hread
      next hquote => exact reads_of_readString (hquote ▸ hoctets) hread
      split at hread
      next hopen =>
        subst hopen
        split at hread
        next => cases hread
        next next more hnext =>
          split at hread
          next hmark =>
            cases hread
            exact .emptyArray hoctets (hmark ▸ hnext)
          next hmark =>
            cases hitems : readItems steps (next :: more) with
            | mk documents left =>
              rw [hitems] at hread
              cases hread
              exact .array hoctets hnext hmark (reads_of_readItems hitems)
      split at hread
      next hopen =>
        subst hopen
        split at hread
        next => cases hread
        next next more hnext =>
          split at hread
          next hmark =>
            cases hread
            exact .emptyObject hoctets (hmark ▸ hnext)
          split at hread
          next hquote =>
            cases hmembers : readMembers steps more with
            | mk entries left =>
              rw [hmembers] at hread
              cases hread
              exact .object hoctets (hquote ▸ hnext) (reads_of_readMembers hmembers)
          next => cases hread
      split at hread
      next => exact reads_of_readWord (by simp [words]) hoctets hread
      split at hread
      next => exact reads_of_readWord (by simp [words]) hoctets hread
      split at hread
      next => exact reads_of_readWord (by simp [words]) hoctets hread
      split at hread
      next hfirst => exact reads_of_readNumber hoctets hfirst hread
      next => cases hread

theorem reads_of_readItems : {steps : Nat} → {octets rest : List UInt8} →
    {documents : List Document} → readItems steps octets = ⟨documents, .ok rest⟩ →
    Reads (.items documents) octets rest
  | 0, _, _, _, hread => by cases hread
  | steps + 1, octets, rest, documents, hread => by
    rw [readItems] at hread
    cases hitem : readValue steps octets with
    | mk document left =>
      rw [hitem] at hread
      cases left with
      | error place => cases hread
      | ok after =>
        have hvalue := reads_of_readValue hitem
        dsimp only at hread
        split at hread
        next => cases hread
        next mark more hmark =>
          split at hread
          next hclose =>
            cases hread
            exact .lastItem hvalue (hclose ▸ hmark)
          split at hread
          next hcomma =>
            split at hread
            next => cases hread
            next next later hnext =>
              split at hread
              next => cases hread
              next hopen =>
                cases hitems : readItems steps (next :: later) with
                | mk documents left =>
                  rw [hitems] at hread
                  cases hread
                  exact .nextItem hvalue (hcomma ▸ hmark) hnext hopen (reads_of_readItems hitems)
          next => cases hread

theorem reads_of_readMembers : {steps : Nat} → {octets rest : List UInt8} →
    {entries : List (Except Cause String × Document)} →
    readMembers steps octets = ⟨entries, .ok rest⟩ → Reads (.members entries) octets rest
  | 0, _, _, _, hread => by cases hread
  | steps + 1, octets, rest, entries, hread => by
    rw [readMembers] at hread
    cases hscan : scanString octets with
    | mk pieces ending =>
      rw [hscan] at hread
      cases ending with
      | broken => cases hread
      | closed after =>
        dsimp only at hread
        rw [text_closed] at hread
        split at hread
        next => cases hread
        next mark tail hmark =>
          split at hread
          next hcolon =>
            cases hvalue : readValue steps tail with
            | mk document left =>
              rw [hvalue] at hread
              cases left with
              | error place => cases hread
              | ok more =>
                have hmember := reads_of_readValue hvalue
                dsimp only at hread
                split at hread
                next => cases hread
                next sign comma hsign =>
                  split at hread
                  next hclose =>
                    cases hread
                    exact .lastMember hscan (hcolon ▸ hmark) hmember (hclose ▸ hsign)
                  split at hread
                  next hcomma =>
                    split at hread
                    next => cases hread
                    next next later hnext =>
                      split at hread
                      next hquote =>
                        cases hmembers : readMembers steps later with
                        | mk entries left =>
                          rw [hmembers] at hread
                          cases hread
                          exact .nextMember hscan (hcolon ▸ hmark) hmember (hcomma ▸ hsign)
                            (hquote ▸ hnext) (reads_of_readMembers hmembers)
                      split at hread
                      next => cases hread
                      next => cases hread
                  next => cases hread
          next => cases hread

end

/-! ## What the rules give the reader takes -/

theorem ne_nil_of_words {document : Document} {word : List UInt8}
    (hword : (document, word) ∈ words) : word ≠ [] := by
  simp only [words, List.mem_cons, Prod.mk.injEq, List.not_mem_nil, or_false] at hword
  rcases hword with ⟨_, rfl⟩ | ⟨_, rfl⟩ | ⟨_, rfl⟩
  all_goals exact List.cons_ne_nil _ _

theorem Reads.length_le {part : Part} {octets rest : List UInt8}
    (hreads : Reads part octets rest) : rest.length ≤ octets.length := by
  induction hreads with
  | @word _ _ octets _ _ hoctets =>
    have := length_skipBlanks_le octets
    rw [hoctets, List.length_append] at this
    omega
  | string hquote hscan =>
    have := length_skipBlanks hquote
    have := length_scanString hscan
    omega
  | number hoctets hfirst hscan =>
    have := length_skipBlanks hoctets
    have := (steady_scanNumber hscan).1
    rw [List.length_cons] at this
    omega
  | emptyArray hopen hclose | emptyObject hopen hclose =>
    have := length_skipBlanks hopen
    have := length_skipBlanks hclose
    omega
  | array hopen hnext _ _ ih =>
    have := length_skipBlanks hopen
    have := length_skipBlanks hnext
    rw [List.length_cons] at ih
    omega
  | object hopen hnext _ ih =>
    have := length_skipBlanks hopen
    have := length_skipBlanks hnext
    omega
  | lastItem _ hclose ih =>
    have := length_skipBlanks hclose
    omega
  | nextItem _ hcomma hnext _ _ ih ihs =>
    have := length_skipBlanks hcomma
    have := length_skipBlanks hnext
    rw [List.length_cons] at ihs
    omega
  | lastMember hkey hcolon _ hclose ih =>
    have := length_scanString hkey
    have := length_skipBlanks hcolon
    have := length_skipBlanks hclose
    omega
  | nextMember hkey hcolon _ hcomma hnext _ ih ihs =>
    have := length_scanString hkey
    have := length_skipBlanks hcolon
    have := length_skipBlanks hcomma
    have := length_skipBlanks hnext
    omega

/-- The reader takes this part in this number of steps. -/
def Part.ReadBy (steps : Nat) (octets rest : List UInt8) : Part → Prop
  | .value document => readValue steps octets = ⟨document, .ok rest⟩
  | .items documents => readItems steps octets = ⟨documents, .ok rest⟩
  | .members entries => readMembers steps octets = ⟨entries, .ok rest⟩

section

variable {steps : Nat} {octets after more rest : List UInt8} {next : UInt8}

theorem readValue_word {document : Document} {word : List UInt8}
    (hword : (document, word) ∈ words) (hoctets : skipBlanks octets = word ++ rest) :
    readValue (steps + 1) octets = ⟨document, .ok rest⟩ := by
  have hread : readWord document word (word ++ rest) = ⟨document, .ok rest⟩ := by
    rw [readWord, scanWord_eq_ok_iff.mpr rfl]
  rw [readValue, hoctets]
  simp only [words, List.mem_cons, Prod.mk.injEq, List.not_mem_nil, or_false] at hword
  rcases hword with ⟨rfl, rfl⟩ | ⟨rfl, rfl⟩ | ⟨rfl, rfl⟩
  all_goals exact hread

theorem readValue_string {pieces : List Piece} (hquote : skipBlanks octets = 34 :: after)
    (hscan : scanString after = ⟨pieces, .closed rest⟩) :
    readValue (steps + 1) octets = ⟨.string (closedText pieces), .ok rest⟩ := by
  rw [readValue, hquote]
  dsimp only
  rw [if_pos rfl, readString, hscan]
  dsimp only
  rw [text_closed]

/-- What begins a number is no other mark. -/
theorem ne_of_number {octet : UInt8} (hoctet : octet = 45 ∨ isDigit octet = true) (mark : UInt8)
    (hmark : mark.toNat < 45 ∨ 57 < mark.toNat) : octet ≠ mark := by
  have hrange : 45 ≤ octet.toNat ∧ octet.toNat ≤ 57 := by
    rcases hoctet with rfl | hdigit
    · decide
    · simp only [isDigit, Bool.and_eq_true, decide_eq_true_eq, UInt8.le_iff_toNat_le] at hdigit
      exact ⟨Nat.le_trans (by decide) hdigit.1, hdigit.2⟩
  rintro rfl
  omega

theorem isBlank_of_number {octet : UInt8} (hoctet : octet = 45 ∨ isDigit octet = true) :
    isBlank octet = false := by
  have hne := ne_of_number hoctet
  simp only [isBlank, Bool.or_eq_false_iff, decide_eq_false_iff_not]
  exact ⟨⟨⟨hne _ (by decide), hne _ (by decide)⟩, hne _ (by decide)⟩, hne _ (by decide)⟩

theorem readValue_number {octet : UInt8} {numeral : Numeral}
    (hoctets : skipBlanks octets = octet :: after) (hfirst : octet = 45 ∨ isDigit octet = true)
    (hscan : scanNumber (octet :: after) = .ok (numeral, rest)) :
    readValue (steps + 1) octets = ⟨.number numeral.value, .ok rest⟩ := by
  have hne := ne_of_number hfirst
  rw [readValue, hoctets]
  dsimp only
  rw [if_neg (hne _ (by decide)), if_neg (hne _ (by decide)), if_neg (hne _ (by decide)),
    if_neg (hne _ (by decide)), if_neg (hne _ (by decide)), if_neg (hne _ (by decide)),
    if_pos hfirst, readNumber, hscan]

theorem readValue_emptyArray (hopen : skipBlanks octets = 91 :: after)
    (hclose : skipBlanks after = 93 :: rest) :
    readValue (steps + 1) octets = ⟨.array [] none, .ok rest⟩ := by
  rw [readValue, hopen]
  dsimp only
  rw [if_neg (by decide), if_pos rfl, hclose]
  rfl

theorem readValue_array {documents : List Document} (hopen : skipBlanks octets = 91 :: after)
    (hnext : skipBlanks after = next :: more) (hmark : next ≠ 93)
    (hitems : readItems steps (next :: more) = ⟨documents, .ok rest⟩) :
    readValue (steps + 1) octets = ⟨.array documents none, .ok rest⟩ := by
  rw [readValue, hopen]
  dsimp only
  rw [if_neg (by decide), if_pos rfl, hnext]
  dsimp only
  rw [if_neg hmark, hitems]
  rfl

theorem readValue_emptyObject (hopen : skipBlanks octets = 123 :: after)
    (hclose : skipBlanks after = 125 :: rest) :
    readValue (steps + 1) octets = ⟨.object [] none, .ok rest⟩ := by
  rw [readValue, hopen]
  dsimp only
  rw [if_neg (by decide), if_neg (by decide), if_pos rfl, hclose]
  rfl

theorem readValue_object {entries : List (Except Cause String × Document)}
    (hopen : skipBlanks octets = 123 :: after) (hnext : skipBlanks after = 34 :: more)
    (hmembers : readMembers steps more = ⟨entries, .ok rest⟩) :
    readValue (steps + 1) octets = ⟨.object entries none, .ok rest⟩ := by
  rw [readValue, hopen]
  dsimp only
  rw [if_neg (by decide), if_neg (by decide), if_pos rfl, hnext]
  dsimp only
  rw [if_neg (by decide), if_pos rfl, hmembers]
  rfl

theorem readItems_last {document : Document}
    (hitem : readValue steps octets = ⟨document, .ok after⟩)
    (hclose : skipBlanks after = 93 :: rest) :
    readItems (steps + 1) octets = ⟨[document], .ok rest⟩ := by
  rw [readItems, hitem]
  dsimp only
  rw [hclose]
  rfl

theorem readItems_next {later : List UInt8} {document : Document} {documents : List Document}
    (hitem : readValue steps octets = ⟨document, .ok after⟩)
    (hcomma : skipBlanks after = 44 :: more) (hnext : skipBlanks more = next :: later)
    (hmark : next ≠ 93) (hitems : readItems steps (next :: later) = ⟨documents, .ok rest⟩) :
    readItems (steps + 1) octets = ⟨document :: documents, .ok rest⟩ := by
  rw [readItems, hitem]
  dsimp only
  rw [hcomma]
  dsimp only
  rw [if_neg (by decide), if_pos rfl, hnext]
  dsimp only
  rw [if_neg hmark, hitems]

theorem readMembers_last {colon : List UInt8} {pieces : List Piece} {document : Document}
    (hkey : scanString octets = ⟨pieces, .closed after⟩) (hcolon : skipBlanks after = 58 :: colon)
    (hvalue : readValue steps colon = ⟨document, .ok more⟩)
    (hclose : skipBlanks more = 125 :: rest) :
    readMembers (steps + 1) octets = ⟨[(closedText pieces, document)], .ok rest⟩ := by
  rw [readMembers, hkey]
  dsimp only
  rw [text_closed, hcolon]
  dsimp only
  rw [if_pos rfl, hvalue]
  dsimp only
  rw [hclose]
  rfl

theorem readMembers_next {colon comma later : List UInt8} {pieces : List Piece}
    {document : Document} {entries : List (Except Cause String × Document)}
    (hkey : scanString octets = ⟨pieces, .closed after⟩) (hcolon : skipBlanks after = 58 :: colon)
    (hvalue : readValue steps colon = ⟨document, .ok more⟩)
    (hcomma : skipBlanks more = 44 :: comma) (hnext : skipBlanks comma = 34 :: later)
    (hmembers : readMembers steps later = ⟨entries, .ok rest⟩) :
    readMembers (steps + 1) octets = ⟨(closedText pieces, document) :: entries, .ok rest⟩ := by
  rw [readMembers, hkey]
  dsimp only
  rw [text_closed, hcolon]
  dsimp only
  rw [if_pos rfl, hvalue]
  dsimp only
  rw [hcomma]
  dsimp only
  rw [if_neg (by decide), if_pos rfl, hnext]
  dsimp only
  rw [if_pos rfl, hmembers]

end

/-- Two steps for every octet that is taken are enough: one for the value that begins
there, and one for the list that it stands in. -/
theorem Reads.readBy {part : Part} {octets rest : List UInt8} (hreads : Reads part octets rest)
    {steps : Nat} (hsteps : 2 * octets.length ≤ steps + 2 * rest.length) :
    part.ReadBy (steps + 1) octets rest := by
  induction hreads generalizing steps with
  | word hword hoctets => exact readValue_word hword hoctets
  | string hquote hscan => exact readValue_string hquote hscan
  | number hoctets hfirst hscan => exact readValue_number hoctets hfirst hscan
  | emptyArray hopen hclose => exact readValue_emptyArray hopen hclose
  | emptyObject hopen hclose => exact readValue_emptyObject hopen hclose
  | array hopen hnext hmark hitems ih =>
    have hafter := length_skipBlanks hopen
    have hmore := length_skipBlanks hnext
    have hlength := hitems.length_le
    rw [List.length_cons] at ih hlength
    obtain ⟨steps, rfl⟩ := Nat.exists_eq_add_of_le' (by omega : 1 ≤ steps)
    exact readValue_array hopen hnext hmark (ih (by omega))
  | object hopen hnext hmembers ih =>
    have hafter := length_skipBlanks hopen
    have hmore := length_skipBlanks hnext
    have hlength := hmembers.length_le
    obtain ⟨steps, rfl⟩ := Nat.exists_eq_add_of_le' (by omega : 1 ≤ steps)
    exact readValue_object hopen hnext (ih (by omega))
  | lastItem hitem hclose ih =>
    have hrest := length_skipBlanks hclose
    have hlength := hitem.length_le
    obtain ⟨steps, rfl⟩ := Nat.exists_eq_add_of_le' (by omega : 1 ≤ steps)
    exact readItems_last (ih (by omega)) hclose
  | nextItem hitem hcomma hnext hmark hitems ih ihs =>
    have hmore := length_skipBlanks hcomma
    have hlater := length_skipBlanks hnext
    have hlength := hitem.length_le
    have hlengths := hitems.length_le
    rw [List.length_cons] at ihs hlengths
    obtain ⟨steps, rfl⟩ := Nat.exists_eq_add_of_le' (by omega : 1 ≤ steps)
    exact readItems_next (ih (by omega)) hcomma hnext hmark (ihs (by omega))
  | lastMember hkey hcolon hvalue hclose ih =>
    have hafter := length_scanString hkey
    have hvalues := length_skipBlanks hcolon
    have hrest := length_skipBlanks hclose
    have hlength := hvalue.length_le
    obtain ⟨steps, rfl⟩ := Nat.exists_eq_add_of_le' (by omega : 1 ≤ steps)
    exact readMembers_last hkey hcolon (ih (by omega)) hclose
  | nextMember hkey hcolon hvalue hcomma hnext hmembers ih ihs =>
    have hafter := length_scanString hkey
    have hvalues := length_skipBlanks hcolon
    have hmore := length_skipBlanks hcomma
    have hlater := length_skipBlanks hnext
    have hlength := hvalue.length_le
    have hlengths := hmembers.length_le
    obtain ⟨steps, rfl⟩ := Nat.exists_eq_add_of_le' (by omega : 1 ≤ steps)
    exact readMembers_next hkey hcolon (ih (by omega)) hcomma hnext (ihs (by omega))

/-- A value is read from a text exactly if the rules give it. -/
theorem readDocument_eq_ok_iff {octets rest : List UInt8} {document : Document} :
    readDocument octets = ⟨document, .ok rest⟩ ↔ Reads (.value document) octets rest := by
  constructor
  · exact reads_of_readValue
  · intro hreads
    exact hreads.readBy (Nat.le_add_right_of_le (Nat.le_succ _))

end Telemetry.Json
