import Telemetry.Codec
import Telemetry.Frame
import Telemetry.Proofs.Json.Numbers

/-!
Frames on one connection are taken apart where they were put together. The reader finds
the end of a head by its blank line and the end of a body by the length in the head, so
it needs only that no line of a head breaks early, that none but the last is blank, and
that the length is the one field of its name; what is in a body does not matter. A frame
is read in front of any others, and with that a stream of them is.
-/

namespace Telemetry

namespace Parts

variable {α : Type} {isMark drops : α → Bool} {mark : α} {text after : List α}

theorem divide_mark (htext : ∀ a ∈ text, isMark a = false) (hmark : isMark mark = true) :
    divide isMark (text ++ mark :: after) = (text, some after) := by
  have hall : ∀ a ∈ text, (!isMark a) = true := fun a ha => by rw [htext a ha]; rfl
  have hnone : ¬ (!isMark mark) = true := by simp [hmark]
  have hdrop : (mark :: after).dropWhile (!isMark ·) = mark :: after :=
    List.dropWhile_cons_of_neg hnone
  have htake : (mark :: after).takeWhile (!isMark ·) = [] := List.takeWhile_cons_of_neg hnone
  rw [divide, List.dropWhile_append_of_pos hall, hdrop, List.takeWhile_append_of_pos hall, htake,
    List.append_nil]

theorem trimEnd_append (hlast : drops mark = true) :
    trimEnd drops (text ++ [mark]) = trimEnd drops text := by
  rw [trimEnd, List.reverse_append, List.reverse_singleton, List.singleton_append,
    List.dropWhile_cons_of_pos hlast]
  rfl

/-- Nothing is dropped in front of what is kept. -/
theorem trimEnd_kept (text after : List α) (hkept : drops mark = false) :
    trimEnd drops (text ++ mark :: after) = text ++ mark :: trimEnd drops after := by
  have hmark : ¬ drops mark = true := by simp [hkept]
  rw [trimEnd, trimEnd, List.reverse_append, List.reverse_cons, List.append_assoc,
    List.dropWhile_append]
  split
  next hempty =>
    rw [List.singleton_append, List.dropWhile_cons_of_neg hmark, List.isEmpty_iff.mp hempty,
      List.reverse_cons, List.reverse_reverse, List.reverse_nil]
  next =>
    simp

theorem trimEnd_eq_self (hkept : ∀ a ∈ text, drops a = false) : trimEnd drops text = text := by
  induction text with
  | nil => rfl
  | cons a rest ih =>
    obtain ⟨ha, hrest⟩ := List.forall_mem_cons.mp hkept
    have hfront := trimEnd_kept [] rest ha
    rw [List.nil_append, List.nil_append, ih hrest] at hfront
    exact hfront

end Parts

namespace Frame

open Utf8

/-- If no piece is empty, a text is as long as the number of its pieces. -/
theorem length_le_flatMap {α β : Type} {f : α → List β} (hf : ∀ a, f a ≠ []) (items : List α) :
    items.length ≤ (items.flatMap f).length := by
  induction items with
  | nil => exact Nat.le_refl 0
  | cons a rest ih =>
    have hfirst := List.length_pos_iff.mpr (hf a)
    rw [List.flatMap_cons, List.length_append, List.length_cons]
    omega

/-! ## Lines -/

theorem takeLine?_line {line : List UInt8} (hline : 10 ∉ line) (rest : List UInt8) :
    takeLine? (line ++ 10 :: rest) = some (line, rest) := by
  induction line with
  | nil => rfl
  | cons octet line ih =>
    obtain ⟨hoctet, hline⟩ := not_or.mp (mt List.mem_cons.mpr hline)
    rw [List.cons_append, takeLine?, if_neg (Ne.symm hoctet), ih hline]
    rfl

/-- A line that does not break and is not blank. -/
def Visible (line : List UInt8) : Prop :=
  10 ∉ line ∧ trimEnd line ≠ []

/-- Visible lines are read up to the first one that is blank. -/
theorem takeHeaders?_lines {lines : List (List UInt8)} {blank rest : List UInt8} {steps : Nat}
    (hsteps : lines.length < steps) (hlines : ∀ line ∈ lines, Visible line)
    (hbreak : 10 ∉ blank) (hblank : trimEnd blank = []) :
    takeHeaders? steps (lines.flatMap (· ++ [10]) ++ (blank ++ 10 :: rest)) =
      some (lines.map trimEnd, rest) := by
  induction lines generalizing steps with
  | nil =>
    obtain ⟨steps, rfl⟩ := Nat.exists_eq_succ_of_ne_zero (Nat.ne_of_gt hsteps)
    have hempty : (trimEnd blank).isEmpty = true := List.isEmpty_iff.mpr hblank
    simp only [List.flatMap_nil, List.nil_append, takeHeaders?, takeLine?_line hbreak rest,
      Option.bind_eq_bind, Option.bind_some, hempty, if_true, List.map_nil]
  | cons line lines ih =>
    obtain ⟨steps, rfl⟩ := Nat.exists_eq_succ_of_ne_zero (Nat.ne_zero_of_lt hsteps)
    obtain ⟨⟨hunbroken, hvisible⟩, hothers⟩ := List.forall_mem_cons.mp hlines
    have htake := takeLine?_line hunbroken (lines.flatMap (· ++ [10]) ++ (blank ++ 10 :: rest))
    have hwhole : (line :: lines).flatMap (· ++ [10]) ++ (blank ++ 10 :: rest) =
        line ++ 10 :: (lines.flatMap (· ++ [10]) ++ (blank ++ 10 :: rest)) := by
      simp [List.flatMap_cons]
    have hempty : ¬ (trimEnd line).isEmpty = true := by rwa [List.isEmpty_iff]
    have hlater := ih (Nat.lt_of_succ_lt_succ hsteps) hothers
    simp only [takeHeaders?, hwhole, htake, Option.bind_eq_bind, Option.bind_some, hlater,
      List.map_cons]
    exact if_neg hempty

/-- A head of visible lines and the body whose length it gives. -/
theorem takeRequest?_lines {line blank body : List UInt8} {lines : List (List UInt8)}
    (hline : 10 ∉ line) (hlines : ∀ text ∈ lines, Visible text) (hbreak : 10 ∉ blank)
    (hblank : trimEnd blank = []) (hlength : bodyLength (lines.map trimEnd) = body.length)
    (rest : List UInt8) :
    let head := line ++ 10 :: (lines.flatMap (· ++ [10]) ++ (blank ++ [10]))
    takeRequest? (head ++ (body ++ rest)) =
      some (⟨head, trimEnd line, lines.map trimEnd, body⟩, rest) := by
  intro head
  let behind := lines.flatMap (· ++ [10]) ++ (blank ++ 10 :: (body ++ rest))
  have hoctets : head ++ (body ++ rest) = line ++ 10 :: behind := by simp [head, behind]
  have htake : takeLine? (head ++ (body ++ rest)) = some (line, behind) := by
    rw [hoctets]
    exact takeLine?_line hline behind
  have hheaders : takeHeaders? (behind.length + 1) behind =
      some (lines.map trimEnd, body ++ rest) := by
    refine takeHeaders?_lines ?_ hlines hbreak hblank
    have hlong := length_le_flatMap (f := (· ++ [10])) (by simp) lines
    simp only [behind, List.length_append, List.length_cons]
    omega
  have hhead : (head ++ (body ++ rest)).take
      ((head ++ (body ++ rest)).length - (body ++ rest).length) = head := by
    rw [List.length_append, Nat.add_sub_cancel, List.take_left]
  have henough : ¬ (body ++ rest).length < body.length := by
    rw [List.length_append]
    omega
  simp only [takeRequest?, htake, hheaders, hlength, hhead, Option.bind_eq_bind,
    Option.bind_some, henough, if_false, List.take_left, List.drop_left]
  rfl

theorem Visible.returned {line : List UInt8} (hvisible : Visible line) :
    Visible (line ++ [13]) := by
  refine ⟨by simp [hvisible.1], ?_⟩
  rw [trimEnd, Parts.trimEnd_append rfl]
  exact hvisible.2

/-- The same for lines that end in two octets. -/
theorem takeRequest?_returns {line body : List UInt8} {lines : List (List UInt8)}
    (hline : 10 ∉ line) (hlines : ∀ text ∈ lines, Visible text)
    (hlength : bodyLength (lines.map trimEnd) = body.length) (rest : List UInt8) :
    let head := (line :: lines).flatMap (· ++ [13, 10]) ++ [13, 10]
    takeRequest? (head ++ (body ++ rest)) =
      some (⟨head, trimEnd line, lines.map trimEnd, body⟩, rest) := by
  have htrim (text : List UInt8) : trimEnd (text ++ [13]) = trimEnd text :=
    Parts.trimEnd_append rfl
  have hmap : (lines.map (· ++ [13])).map trimEnd = lines.map trimEnd := by
    rw [List.map_map]
    exact List.map_congr_left fun text _ => htrim text
  have hhead : (line :: lines).flatMap (· ++ [13, 10]) ++ [13, 10] =
      (line ++ [13]) ++ 10 ::
        ((lines.map (· ++ [13])).flatMap (· ++ [10]) ++ ([13] ++ [10])) := by
    simp [List.flatMap_cons, List.flatMap_map]
  have hreturned : ∀ text ∈ lines.map (· ++ [13]), Visible text := by
    intro text hmember
    obtain ⟨line, hvisible, rfl⟩ := List.mem_map.mp hmember
    exact (hlines line hvisible).returned
  dsimp only
  rw [hhead, takeRequest?_lines (by simp [hline]) hreturned (by decide) rfl
    (by rw [hmap]; exact hlength) rest, htrim, hmap]

/-! ## The length of a body -/

theorem divide_colon {name : List UInt8} (hname : 58 ∉ name) (value : List UInt8) :
    Parts.divide (· = 58) (name ++ 58 :: value) = (name, some value) := by
  apply Parts.divide_mark
  · intro octet hoctet
    exact decide_eq_false fun hcolon => hname (hcolon ▸ hoctet)
  · rfl

theorem lengthIn?_field {name value : List UInt8} (hname : 58 ∉ name) :
    lengthIn? (name ++ 58 :: value) =
      if name.map Ascii.lower = (encode lengthName).map Ascii.lower then
        Ascii.decimal? (Parts.trim isSpace value)
      else none := by
  rw [lengthIn?, divide_colon hname]

theorem decimal?_digitOctets (n : Nat) : Ascii.decimal? (Json.digitOctets n) = some n := by
  have hnonempty : (Json.digitOctets n).isEmpty = false :=
    List.isEmpty_eq_false_iff.mpr (Json.digitOctets_ne_nil n)
  have hall : (Json.digitOctets n).all Ascii.isDecimal = true :=
    List.all_eq_true.mpr fun octet hoctet => Json.isDigit_digitOctets hoctet
  have hvalue := Json.ofDigits_digitOctets n
  rw [Json.ofDigits, Json.digitValues, List.foldl_map] at hvalue
  rw [Ascii.decimal?, hnonempty, hall, hvalue]
  rfl

theorem isSpace_digitOctets {n : Nat} {octet : UInt8} (hoctet : octet ∈ Json.digitOctets n) :
    isSpace octet = false := by
  have hdigit := Json.isDigit_digitOctets hoctet
  simp only [Json.isDigit, Bool.and_eq_true, decide_eq_true_eq, UInt8.le_iff_toNat_le] at hdigit
  simp only [isSpace, Bool.or_eq_false_iff, Bool.and_eq_false_iff, decide_eq_false_iff_not,
    UInt8.le_iff_toNat_le, ← UInt8.toNat_inj]
  obtain ⟨hlow, hhigh⟩ := hdigit
  change 48 ≤ octet.toNat at hlow
  exact ⟨show octet.toNat ≠ 32 by omega, Or.inr (show ¬ octet.toNat ≤ 13 by omega)⟩

theorem trim_length (n : Nat) :
    Parts.trim isSpace (trimEnd (32 :: Json.digitOctets n)) = Json.digitOctets n := by
  have hkept : ∀ octet ∈ Json.digitOctets n, isSpace octet = false :=
    fun _ hoctet => isSpace_digitOctets hoctet
  obtain ⟨first, others, hdigits⟩ := List.exists_cons_of_ne_nil (Json.digitOctets_ne_nil n)
  rw [hdigits] at hkept ⊢
  obtain ⟨hfirst, hothers⟩ := List.forall_mem_cons.mp hkept
  have hend : trimEnd (32 :: first :: others) = 32 :: first :: others := by
    have hback := Parts.trimEnd_kept [32] others hfirst
    rw [Parts.trimEnd_eq_self hothers] at hback
    exact hback
  have hfront : (32 :: first :: others).dropWhile isSpace = first :: others := by
    rw [List.dropWhile_cons_of_pos (by rfl), List.dropWhile_cons_of_neg (by simp [hfirst])]
  rw [hend, Parts.trim, hfront]
  exact Parts.trimEnd_eq_self hkept

theorem encode_toString (n : Nat) : encode (toString n) = Json.digitOctets n :=
  congrArg encodeChars Nat.toList_repr

theorem encode_field (name value : String) :
    encode (name ++ ": " ++ value) = encode name ++ 58 :: 32 :: encode value := by
  rw [encode_append, encode_append, List.append_assoc]
  rfl

/-- A header line with its name and its text apart. Nothing in front of the colon is
trimmed, however blank the text is. -/
theorem trimEnd_field (name value : String) :
    trimEnd (encode (name ++ ": " ++ value)) =
      encode name ++ 58 :: trimEnd (32 :: encode value) := by
  rw [encode_field]
  exact Parts.trimEnd_kept _ _ rfl

theorem lengthIn?_length (n : Nat) :
    lengthIn? (trimEnd (encode (lengthName ++ ": " ++ toString n))) = some n := by
  rw [trimEnd_field, lengthIn?_field (by decide), if_pos rfl, encode_toString, trim_length,
    decimal?_digitOctets]

/-! ## The head -/

/-- The header fields in front of the length. -/
def fields (endpoint : Endpoint) (contentType : String) : List (String × String) := [
  ("Host", endpoint.hostHeader),
  ("Accept", contentType),
  ("User-Agent", userAgent),
  ("Content-Type", contentType)]

/-- None of these fields can be taken for the length, whatever their texts are. -/
theorem lengthIn?_fields {endpoint : Endpoint} {contentType : String} {field : String × String}
    (hfield : field ∈ fields endpoint contentType) :
    lengthIn? (trimEnd (encode (field.1 ++ ": " ++ field.2))) = none := by
  have hname : field.1 ∈ ["Host", "Accept", "User-Agent", "Content-Type"] :=
    List.mem_map_of_mem (f := Prod.fst) hfield
  have hother : ∀ name ∈ ["Host", "Accept", "User-Agent", "Content-Type"], 58 ∉ encode name ∧
      (encode name).map Ascii.lower ≠ (encode lengthName).map Ascii.lower := by decide
  obtain ⟨hcolon, hother⟩ := hother field.1 hname
  rw [trimEnd_field, lengthIn?_field hcolon, if_neg hother]

def requestLine (endpoint : Endpoint) : String :=
  "POST " ++ endpoint.path ++ " HTTP/1.1"

def headerLines (endpoint : Endpoint) (contentType : String) (length : Nat) : List String :=
  (fields endpoint contentType).map (fun field => field.1 ++ ": " ++ field.2) ++
    [lengthName ++ ": " ++ toString length]

theorem headLines_eq (endpoint : Endpoint) (contentType : String) (length : Nat) :
    headLines endpoint contentType length =
      requestLine endpoint :: headerLines endpoint contentType length := rfl

theorem encode_head (endpoint : Endpoint) (contentType : String) (length : Nat) :
    encode (head endpoint contentType length) =
      encode (requestLine endpoint) ++ 13 :: 10 ::
        (((headerLines endpoint contentType length).map encode).flatMap (· ++ [13, 10]) ++
          [13, 10]) := by
  have hline : ∀ line : String, encode (line ++ lineEnd) = encode line ++ [13, 10] :=
    fun line => encode_append line lineEnd
  rw [head, encode_append, encode_join, headLines_eq, List.map_cons, List.flatMap_cons, hline,
    List.flatMap_map, List.flatMap_map]
  simp only [hline, List.append_assoc]
  rfl

theorem bodyLength_headers (endpoint : Endpoint) (contentType : String) (length : Nat) :
    bodyLength ((headerLines endpoint contentType length).map fun line => trimEnd (encode line)) =
      length := by
  have hnone : (((fields endpoint contentType).map fun field => field.1 ++ ": " ++ field.2).map
      fun line => trimEnd (encode line)).filterMap lengthIn? = [] := by
    rw [List.filterMap_eq_nil_iff]
    intro line hline
    simp only [List.map_map, List.mem_map] at hline
    obtain ⟨field, hfield, rfl⟩ := hline
    exact lengthIn?_fields hfield
  rw [bodyLength, headerLines, List.map_append, List.filterMap_append, hnone, List.map_singleton,
    List.nil_append, List.filterMap_cons_some (lengthIn?_length length)]
  rfl

theorem not_mem_encode {s : String} (hs : '\n' ∉ s.toList) : 10 ∉ encode s :=
  fun hbreak => hs (mem_of_mem_encode (by decide) hbreak)

/-- A place that can be named within a line. -/
structure Inline (endpoint : Endpoint) : Prop where
  host : '\n' ∉ endpoint.host.toList
  path : '\n' ∉ endpoint.path.toList

theorem inline_make {scheme : Scheme} {host path : String} {port : Nat}
    (hhost : '\n' ∉ host.toList) (hpath : '\n' ∉ path.toList) :
    Inline (.make scheme host port path) := by
  refine ⟨hhost, ?_⟩
  show '\n' ∉ (Endpoint.rooted path).toList
  rw [Endpoint.rooted]
  split
  · exact hpath
  · simp [hpath]

theorem inline_hostHeader {endpoint : Endpoint} (hinline : Inline endpoint) :
    '\n' ∉ endpoint.hostHeader.toList := by
  rw [Endpoint.hostHeader]
  split
  · exact hinline.host
  · have hport : '\n' ∉ Nat.toDigits 10 endpoint.port := fun hbreak =>
      absurd (Json.isDigit_toDigits hbreak).1 (by decide)
    simp [hinline.host, hport]

theorem inline_fields {endpoint : Endpoint} (hinline : Inline endpoint) (codec : Codec) :
    ∀ field ∈ fields endpoint codec.contentType,
      '\n' ∉ field.1.toList ∧ '\n' ∉ field.2.toList := by
  have hcontent : '\n' ∉ codec.contentType.toList := by
    cases codec with
    | binary => decide
    | text => decide
  have hhost := inline_hostHeader hinline
  intro field hfield
  simp only [fields, List.mem_cons, List.not_mem_nil, or_false] at hfield
  rcases hfield with rfl | rfl | rfl | rfl
  · exact ⟨show '\n' ∉ "Host".toList by decide, hhost⟩
  · exact ⟨show '\n' ∉ "Accept".toList by decide, hcontent⟩
  · exact ⟨by decide, by decide⟩
  · exact ⟨show '\n' ∉ "Content-Type".toList by decide, hcontent⟩

/-- The name and the colon of a field can be seen, whatever its text is. -/
theorem visible_field {name value : String} (hname : '\n' ∉ name.toList)
    (hvalue : '\n' ∉ value.toList) : Visible (encode (name ++ ": " ++ value)) := by
  refine ⟨not_mem_encode (by simp [hname, hvalue]), ?_⟩
  rw [trimEnd_field]
  exact List.append_ne_nil_of_right_ne_nil _ (List.cons_ne_nil _ _)

theorem visible_length (length : Nat) :
    Visible (encode (lengthName ++ ": " ++ toString length)) := by
  have hdigits : '\n' ∉ Nat.toDigits 10 length := fun hbreak =>
    absurd (Json.isDigit_toDigits hbreak).1 (by decide)
  refine visible_field (by decide) ?_
  rwa [show (toString length).toList = Nat.toDigits 10 length from Nat.toList_repr]

/-- No line of a head is broken, and none but the last is blank. -/
theorem visible_headerLines {endpoint : Endpoint} (hinline : Inline endpoint) (codec : Codec)
    (length : Nat) :
    ∀ line ∈ (headerLines endpoint codec.contentType length).map encode, Visible line := by
  intro octets hoctets
  obtain ⟨line, hline, rfl⟩ := List.mem_map.mp hoctets
  rcases List.mem_append.mp hline with hfield | hlength
  · obtain ⟨field, hmember, rfl⟩ := List.mem_map.mp hfield
    obtain ⟨hname, hvalue⟩ := inline_fields hinline codec field hmember
    exact visible_field hname hvalue
  · rw [List.mem_singleton.mp hlength]
    exact visible_length length

/-- A frame as the other side reads it. -/
def received (endpoint : Endpoint) (codec : Codec) (body : List UInt8) : Request where
  head := encode (head endpoint codec.contentType body.length)
  line := trimEnd (encode (requestLine endpoint))
  headers := (headerLines endpoint codec.contentType body.length).map fun line =>
    trimEnd (encode line)
  body

theorem takeRequest?_post {endpoint : Endpoint} (hinline : Inline endpoint) (codec : Codec)
    (body rest : List UInt8) :
    takeRequest? (post endpoint codec.contentType body ++ rest) =
      some (received endpoint codec body, rest) := by
  let lines := (headerLines endpoint codec.contentType body.length).map encode
  have hhead : encode (head endpoint codec.contentType body.length) =
      (encode (requestLine endpoint) :: lines).flatMap (· ++ [13, 10]) ++ [13, 10] := by
    rw [encode_head, List.flatMap_cons]
    simp [lines]
  have hline : 10 ∉ encode (requestLine endpoint) :=
    not_mem_encode (by simp [requestLine, hinline.path])
  have hlength : bodyLength (lines.map trimEnd) = body.length := by
    rw [List.map_map]
    exact bodyLength_headers endpoint codec.contentType body.length
  rw [post, List.append_assoc, hhead, takeRequest?_returns hline
    (visible_headerLines hinline codec body.length) hlength rest, ← hhead, List.map_map]
  rfl

theorem takeRequests_posts {endpoint : Endpoint} (hinline : Inline endpoint) (codec : Codec)
    (bodies : List (List UInt8)) (steps : Nat) (hsteps : bodies.length ≤ steps) :
    takeRequests steps (bodies.flatMap (post endpoint codec.contentType)) =
      (bodies.map (received endpoint codec), []) := by
  induction bodies generalizing steps with
  | nil =>
    cases steps with
    | zero => rfl
    | succ steps => rfl
  | cons body bodies ih =>
    obtain ⟨steps, rfl⟩ := Nat.exists_eq_succ_of_ne_zero (Nat.ne_zero_of_lt hsteps)
    have hlater := ih steps (Nat.le_of_succ_le_succ hsteps)
    rw [List.flatMap_cons, takeRequests, takeRequest?_post hinline codec body]
    dsimp only
    rw [hlater, List.map_cons]

/-- The other side takes a stream of frames apart where they were put together. The bodies
come out as they went in and in their order, whatever is in them, and nothing is left over.
The place may be any that can be named within a line. -/
theorem readRequests_posts (codec : Codec) (scheme : Scheme) (host path : String) (port : Nat)
    (hhost : '\n' ∉ host.toList) (hpath : '\n' ∉ path.toList) (bodies : List (List UInt8)) :
    let endpoint := Endpoint.make scheme host port path
    let stream := bodies.flatMap (post endpoint codec.contentType)
    (readRequests stream).1.map (·.body) = bodies ∧ (readRequests stream).2 = [] := by
  intro endpoint stream
  have hinline : Inline endpoint := inline_make hhost hpath
  have hpieces : ∀ body, post endpoint codec.contentType body ≠ [] := by
    intro body
    rw [post, encode_head, List.append_assoc]
    exact List.append_ne_nil_of_right_ne_nil _ (List.cons_ne_nil _ _)
  have hread : readRequests stream = (bodies.map (received endpoint codec), []) :=
    takeRequests_posts hinline codec bodies stream.length (length_le_flatMap hpieces bodies)
  rw [hread]
  refine ⟨?_, rfl⟩
  rw [List.map_map]
  exact List.map_id' bodies

/-- No body, one that looks like a head, and one that begins and ends with blank lines. The
path gets its slash and the port goes without saying. -/
theorem readRequests_posts_sample :
    '\n' ∉ "::1\r".toList ∧ '\n' ∉ "a path".toList ∧
    let bodies := [[], encode "POST / HTTP/1.1\r\nContent-Length: 9\r\n\r\n",
      [13, 10, 13, 10, 0, 255, 13, 10, 13, 10]]
    let endpoint := Endpoint.make .plain "::1\r" 80 "a path"
    let stream := bodies.flatMap (post endpoint Codec.text.contentType)
    endpoint.path = "/a path" ∧ endpoint.hostHeader = "::1\r" ∧
      (readRequests stream).1.map (·.body) = bodies ∧ (readRequests stream).2 = [] := by
  have hhost : '\n' ∉ "::1\r".toList := by decide
  have hpath : '\n' ∉ "a path".toList := by decide
  exact ⟨hhost, hpath, rfl, rfl,
    readRequests_posts .text .plain "::1\r" "a path" 80 hhost hpath _⟩

end Frame

end Telemetry
