import Telemetry.Proofs.Frame

/-!
What a host and a path may do to a frame. Both are written into the head as they are, so
the head has the layout of a request exactly if neither holds a line feed. The other side
needs less to find the body: its lines may break as long as none of them is blank before
the last. Where one is, the head ends early and the rest of it is taken for a body and
for another request.
-/

namespace Telemetry

namespace Parts

variable {α : Type} {isMark : α → Bool}

theorem split_ne_nil (isMark : α → Bool) (text : List α) : split isMark text ≠ [] := by
  cases text with
  | nil => exact List.cons_ne_nil _ _
  | cons a text =>
    rw [split]
    split
    · exact List.cons_ne_nil _ _
    · split
      · exact List.cons_ne_nil _ _
      · exact List.cons_ne_nil _ _

theorem split_mark (text : List α) {mark : α} (hmark : isMark mark = true) (after : List α) :
    split isMark (text ++ mark :: after) = split isMark text ++ split isMark after := by
  induction text with
  | nil =>
    rw [List.nil_append]
    exact if_pos hmark
  | cons a text ih =>
    rw [List.cons_append, split, split, ih]
    cases hmarked : isMark a with
    | true => rfl
    | false =>
      obtain ⟨first, more, hsplit⟩ := List.exists_cons_of_ne_nil (split_ne_nil isMark text)
      rw [hsplit]
      rfl

theorem split_of_none {text : List α} (htext : ∀ a ∈ text, isMark a = false) :
    split isMark text = [text] := by
  induction text with
  | nil => rfl
  | cons a text ih =>
    obtain ⟨ha, htext⟩ := List.forall_mem_cons.mp htext
    rw [split, ih htext, ha]
    rfl

end Parts

namespace Frame

open Utf8

/-! ## The layout of a request -/

/-- The names of the header fields in their order. -/
def fieldNames : List String :=
  ["Host", "Accept", "User-Agent", "Content-Type", lengthName]

/-- The name of a header line. -/
def nameOf (line : List UInt8) : List UInt8 :=
  (Parts.divide (· = 58) line).1

/-- The frame is a request line, one header line for each field, the first blank line and
the body. -/
structure Layout (frame body line : List UInt8) (headers : List (List UInt8)) : Prop where
  octets : frame = (line :: headers).flatMap (· ++ [13, 10]) ++ 13 :: 10 :: body
  visible : ∀ text ∈ line :: headers, Visible text
  method : encode "POST " <+: line
  version : encode " HTTP/1.1" <:+ line
  names : headers.map nameOf = fieldNames.map encode
  length : bodyLength (headers.map trimEnd) = body.length

def LaidOut (frame body : List UInt8) : Prop :=
  ∃ line headers, Layout frame body line headers

theorem nameOf_field {name : String} (hname : 58 ∉ encode name) (value : String) :
    nameOf (encode (name ++ ": " ++ value)) = encode name := by
  rw [nameOf, encode_field, divide_colon hname]

theorem nameOf_headerLines (endpoint : Endpoint) (contentType : String) (length : Nat) :
    ((headerLines endpoint contentType length).map encode).map nameOf =
      fieldNames.map encode := by
  have hnames : ∀ name ∈ fieldNames, 58 ∉ encode name := by decide
  have hlines : headerLines endpoint contentType length =
      (fieldNames.zip [endpoint.hostHeader, contentType, userAgent, contentType,
        toString length]).map fun field => field.1 ++ ": " ++ field.2 := rfl
  rw [hlines, List.map_map, List.map_map]
  have hname : ∀ field ∈ fieldNames.zip [endpoint.hostHeader, contentType, userAgent,
      contentType, toString length], nameOf (encode (field.1 ++ ": " ++ field.2)) =
        encode field.1 :=
    fun field hfield => nameOf_field (hnames field.1 (List.of_mem_zip hfield).1) field.2
  exact List.map_congr_left hname

theorem visible_requestLine {endpoint : Endpoint} (hinline : Inline endpoint) :
    Visible (encode (requestLine endpoint)) := by
  have hfirst : encode (requestLine endpoint) =
      [] ++ 80 :: encode ("OST " ++ endpoint.path ++ " HTTP/1.1") := by
    simp only [requestLine, encode_append]
    rfl
  refine ⟨not_mem_encode (by simp [requestLine, hinline.path]), ?_⟩
  rw [hfirst, trimEnd, Parts.trimEnd_kept [] _ rfl]
  exact List.cons_ne_nil _ _

theorem laidOut_post {endpoint : Endpoint} (hinline : Inline endpoint) (codec : Codec)
    (body : List UInt8) : LaidOut (post endpoint codec.contentType body) body := by
  refine ⟨encode (requestLine endpoint),
    (headerLines endpoint codec.contentType body.length).map encode, ?_⟩
  constructor
  case octets =>
    rw [post, encode_head, List.flatMap_cons]
    simp
  case visible =>
    exact List.forall_mem_cons.mpr ⟨visible_requestLine hinline,
      visible_headerLines hinline codec body.length⟩
  case method =>
    rw [requestLine, encode_append, encode_append, List.append_assoc]
    exact List.prefix_append _ _
  case version =>
    rw [requestLine, encode_append]
    exact List.suffix_append _ _
  case names => exact nameOf_headerLines endpoint codec.contentType body.length
  case length =>
    rw [List.map_map]
    exact bodyLength_headers endpoint codec.contentType body.length

/-! ## Line feeds -/

/-- No other character has the octet of the line feed in it. -/
theorem count_encodeChar (c : Char) :
    (encodeChar c).count 10 = if c = '\n' then 1 else 0 := by
  by_cases hone : c.toNat < 0x80
  · rw [encodeChar_ascii hone]
    by_cases hbreak : c = '\n'
    · rw [hbreak]
      rfl
    · rw [if_neg hbreak, List.count_eq_zero, List.mem_singleton]
      intro hten
      have hcode := congrArg UInt8.toNat hten
      rw [toNat_ofNat (by omega)] at hcode
      exact hbreak (Char.toNat_inj.mp hcode.symm)
  · have hbreak : c ≠ '\n' := by
      rintro rfl
      exact hone (by decide)
    rw [if_neg hbreak, List.count_eq_zero]
    intro hmember
    exact absurd (le_of_mem_encodeChar (Nat.not_lt.mp hone) hmember) (by decide)

theorem count_encode (s : String) : (encode s).count 10 = s.toList.count '\n' := by
  unfold encode
  induction s.toList with
  | nil => rfl
  | cons c cs ih =>
    rw [encodeChars_cons, List.count_append, count_encodeChar, ih, List.count_cons, Nat.add_comm]
    simp only [beq_iff_eq]

theorem count_digits (n : Nat) : (encode (toString n)).count 10 = 0 := by
  rw [encode_toString, List.count_eq_zero]
  exact fun hbreak => absurd (Json.isDigit_digitOctets hbreak) (by decide)

theorem count_hostHeader (endpoint : Endpoint) :
    (encode endpoint.hostHeader).count 10 = endpoint.host.toList.count '\n' := by
  rw [Endpoint.hostHeader]
  split
  · exact count_encode endpoint.host
  · rw [encode_append, encode_append, List.count_append, List.count_append, count_digits,
      count_encode]
    rfl

theorem count_contentType (codec : Codec) : (encode codec.contentType).count 10 = 0 := by
  cases codec with
  | binary => decide
  | text => decide

theorem count_requestLine (endpoint : Endpoint) :
    (encode (requestLine endpoint)).count 10 = endpoint.path.toList.count '\n' := by
  rw [requestLine, encode_append, encode_append, List.count_append, List.count_append,
    count_encode endpoint.path]
  exact Nat.zero_add _

/-- The head has its own seven, and those of the path and the host. -/
theorem count_head (endpoint : Endpoint) (codec : Codec) (length : Nat) :
    (encode (head endpoint codec.contentType length)).count 10 =
      7 + endpoint.path.toList.count '\n' + endpoint.host.toList.count '\n' := by
  have hfield (name value : String) : (encode (name ++ ": " ++ value)).count 10 =
      (encode name).count 10 + (encode value).count 10 := by
    rw [encode_append, encode_append, List.count_append, List.count_append]
    rfl
  have hsep (rest : List UInt8) : (13 :: 10 :: rest).count 10 = rest.count 10 + 1 := by
    rw [List.count_cons_of_ne (by decide), List.count_cons_self]
  have hnames : (encode "Host").count 10 = 0 ∧ (encode "Accept").count 10 = 0 ∧
      (encode "User-Agent").count 10 = 0 ∧ (encode "Content-Type").count 10 = 0 ∧
      (encode lengthName).count 10 = 0 ∧ (encode userAgent).count 10 = 0 := by
    decide
  obtain ⟨hhost, haccept, hagent, htype, hlength, hname⟩ := hnames
  rw [encode_head, headerLines, fields]
  simp only [List.map_cons, List.map_nil, List.cons_append, List.nil_append, List.append_assoc,
    List.flatMap_cons, List.flatMap_nil, List.count_append, List.count_nil, hfield, hsep,
    count_hostHeader, count_contentType, count_digits, count_requestLine, hhost, haccept,
    hagent, htype, hlength, hname]
  omega

theorem count_lines {lines : List (List UInt8)} (hlines : ∀ line ∈ lines, 10 ∉ line) :
    (lines.flatMap (· ++ [13, 10])).count 10 = lines.length := by
  induction lines with
  | nil => rfl
  | cons line lines ih =>
    obtain ⟨hline, hlines⟩ := List.forall_mem_cons.mp hlines
    have hend : ([13, 10] : List UInt8).count 10 = 1 := rfl
    rw [List.flatMap_cons, List.count_append, List.count_append, List.count_eq_zero.mpr hline,
      hend, ih hlines, List.length_cons]
    omega

/-- Six lines and a blank one leave no line feed to the host and the path. -/
theorem inline_of_laidOut {endpoint : Endpoint} {codec : Codec} {body : List UInt8}
    (hlaid : LaidOut (post endpoint codec.contentType body) body) : Inline endpoint := by
  obtain ⟨line, headers, hlayout⟩ := hlaid
  have hhead : encode (head endpoint codec.contentType body.length) =
      (line :: headers).flatMap (· ++ [13, 10]) ++ [13, 10] := by
    apply (List.append_left_inj body).mp
    rw [List.append_assoc]
    exact hlayout.octets
  have hfive : headers.length = 5 := by
    have hlength := congrArg List.length hlayout.names
    rwa [List.length_map] at hlength
  have hcount := count_head endpoint codec body.length
  rw [hhead, List.count_append, count_lines fun line hline => (hlayout.visible line hline).1,
    List.length_cons, hfive] at hcount
  have hend : ([13, 10] : List UInt8).count 10 = 1 := rfl
  constructor
  · exact List.count_eq_zero.mp (by omega)
  · exact List.count_eq_zero.mp (by omega)

/-! ## What the other side finds -/

theorem takeLine?_eq_some {octets line rest : List UInt8}
    (htake : takeLine? octets = some (line, rest)) : octets = line ++ 10 :: rest ∧ 10 ∉ line := by
  induction octets generalizing line with
  | nil => cases htake
  | cons octet octets ih =>
    rw [takeLine?] at htake
    split at htake
    next hbreak =>
      obtain ⟨rfl, rfl⟩ := Prod.mk.inj (Option.some.inj htake)
      exact ⟨by rw [hbreak]; rfl, List.not_mem_nil⟩
    next hbreak =>
      obtain ⟨⟨front, after⟩, hfront, hpair⟩ := Option.bind_eq_some_iff.mp htake
      obtain ⟨rfl, rfl⟩ := Prod.mk.inj (Option.some.inj hpair)
      obtain ⟨rfl, hnone⟩ := ih hfront
      exact ⟨rfl, by simp [Ne.symm hbreak, hnone]⟩

/-- The header lines end at the first blank one. -/
theorem takeHeaders?_eq_some {steps : Nat} {octets rest : List UInt8}
    {headers : List (List UInt8)} (htake : takeHeaders? steps octets = some (headers, rest)) :
    ∃ (lines : List (List UInt8)) (blank : List UInt8),
      octets = lines.flatMap (· ++ [10]) ++ (blank ++ 10 :: rest) ∧
      (∀ line ∈ lines, Visible line) ∧ 10 ∉ blank ∧ trimEnd blank = [] := by
  induction steps generalizing octets headers with
  | zero => cases htake
  | succ steps ih =>
    rw [takeHeaders?] at htake
    obtain ⟨⟨line, after⟩, hline, hothers⟩ := Option.bind_eq_some_iff.mp htake
    obtain ⟨rfl, hbreak⟩ := takeLine?_eq_some hline
    dsimp only at hothers
    split at hothers
    next hblank =>
      obtain ⟨_, rfl⟩ := Prod.mk.inj (Option.some.inj hothers)
      exact ⟨[], line, rfl, List.forall_mem_nil _, hbreak, List.isEmpty_iff.mp hblank⟩
    next hvisible =>
      obtain ⟨⟨later, rest⟩, hlater, hpair⟩ := Option.bind_eq_some_iff.mp hothers
      obtain ⟨_, rfl⟩ := Prod.mk.inj (Option.some.inj hpair)
      obtain ⟨lines, blank, rfl, hlines, hblank⟩ := ih hlater
      refine ⟨line :: lines, blank, ?_, ?_, hblank⟩
      · simp [List.flatMap_cons]
      · exact List.forall_mem_cons.mpr ⟨⟨hbreak, fun hempty =>
          hvisible (List.isEmpty_iff.mpr hempty)⟩, hlines⟩

/-- One head and nothing behind it: a first line, header lines that are not blank, and a
blank line. -/
def OneHead (octets : List UInt8) : Prop :=
  ∃ (line : List UInt8) (lines : List (List UInt8)) (blank : List UInt8),
    octets = line ++ 10 :: (lines.flatMap (· ++ [10]) ++ (blank ++ [10])) ∧
    10 ∉ line ∧ (∀ text ∈ lines, Visible text) ∧ 10 ∉ blank ∧ trimEnd blank = []

/-- The other side finds one request with this body and nothing else. -/
def Recovered (frame body : List UInt8) : Prop :=
  ∃ request, readRequests frame = ([request], []) ∧ request.body = body

/-- Nothing is left over from where no request is found. -/
theorem takeRequests_eq_nil {steps : Nat} {octets rest : List UInt8}
    (htake : takeRequests steps octets = ([], rest)) : octets = rest := by
  cases steps with
  | zero => exact (Prod.mk.inj htake).2
  | succ steps =>
    rw [takeRequests] at htake
    split at htake
    · exact (Prod.mk.inj htake).2
    · cases (Prod.mk.inj htake).1

theorem takeRequest?_of_recovered {frame body : List UInt8} (hrecovered : Recovered frame body) :
    ∃ request, takeRequest? frame = some (request, []) ∧ request.body = body := by
  obtain ⟨request, hread, hbody⟩ := hrecovered
  unfold readRequests at hread
  cases frame with
  | nil => cases (Prod.mk.inj hread).1
  | cons octet octets =>
    rw [List.length_cons, takeRequests] at hread
    split at hread
    next => cases (Prod.mk.inj hread).1
    next first rest htake =>
      obtain ⟨hrequests, hleft⟩ := Prod.mk.inj hread
      obtain ⟨rfl, hmore⟩ := List.cons.inj hrequests
      obtain rfl := takeRequests_eq_nil (Prod.ext hmore hleft)
      exact ⟨first, htake, hbody⟩

theorem recovered_of_takeRequest? {frame body : List UInt8} {request : Request}
    (htake : takeRequest? frame = some (request, [])) (hbody : request.body = body) :
    Recovered frame body := by
  refine ⟨request, ?_, hbody⟩
  unfold readRequests
  cases frame with
  | nil => cases htake
  | cons octet octets =>
    rw [List.length_cons, takeRequests, htake]
    cases octets.length with
    | zero => rfl
    | succ steps => rfl

/-- The layout is enough for the body to be found. -/
theorem recovered_of_laidOut {frame body : List UInt8} (hlaid : LaidOut frame body) :
    Recovered frame body := by
  obtain ⟨line, headers, hlayout⟩ := hlaid
  obtain ⟨hline, hheaders⟩ := List.forall_mem_cons.mp hlayout.visible
  have hread := takeRequest?_returns hline.1 hheaders hlayout.length []
  have hframe : frame = ((line :: headers).flatMap (· ++ [13, 10]) ++ [13, 10]) ++ (body ++ []) := by
    rw [hlayout.octets, List.append_nil, List.append_assoc]
    rfl
  rw [hframe]
  exact recovered_of_takeRequest? hread rfl

/-- What a request is read from: its first line, its headers and its body. -/
theorem takeRequest?_eq_some {octets rest : List UInt8} {request : Request}
    (htake : takeRequest? octets = some (request, rest)) :
    ∃ line after headers behind, takeLine? octets = some (line, after) ∧
      takeHeaders? (after.length + 1) after = some (headers, behind) ∧
      request.body = behind.take (bodyLength headers) ∧
      rest = behind.drop (bodyLength headers) := by
  rw [takeRequest?] at htake
  obtain ⟨⟨line, after⟩, hline, hothers⟩ := Option.bind_eq_some_iff.mp htake
  obtain ⟨⟨headers, behind⟩, hheaders, hbody⟩ := Option.bind_eq_some_iff.mp hothers
  dsimp only at hbody
  split at hbody
  next => cases hbody
  next =>
    obtain ⟨rfl, rfl⟩ := Prod.mk.inj (Option.some.inj hbody)
    exact ⟨line, after, headers, behind, hline, hheaders, rfl, rfl⟩

theorem oneHead_of_recovered {head body : List UInt8}
    (hrecovered : Recovered (head ++ body) body) : OneHead head := by
  obtain ⟨request, htake, hbody⟩ := takeRequest?_of_recovered hrecovered
  obtain ⟨line, after, headers, behind, hline, hheaders, htaken, hleft⟩ :=
    takeRequest?_eq_some htake
  have hbehind : behind = body := by
    have hwhole := List.take_append_drop (bodyLength headers) behind
    rw [← htaken, ← hleft, List.append_nil] at hwhole
    exact hwhole.symm.trans hbody
  obtain ⟨hoctets, hbreak⟩ := takeLine?_eq_some hline
  obtain ⟨lines, blank, rfl, hlines, hblank⟩ := takeHeaders?_eq_some hheaders
  refine ⟨line, lines, blank, ?_, hbreak, hlines, hblank⟩
  apply (List.append_left_inj body).mp
  rw [hoctets, hbehind]
  simp

theorem encode_head_end (endpoint : Endpoint) (contentType : String) (length : Nat) :
    ∃ front, encode (head endpoint contentType length) =
      front ++ 10 :: ((encode (lengthName ++ ": " ++ toString length) ++ [13]) ++
        10 :: ([13] ++ 10 :: [])) := by
  let others := ["Host: " ++ endpoint.hostHeader, "Accept: " ++ contentType,
    "User-Agent: " ++ userAgent]
  refine ⟨encode (requestLine endpoint) ++ 13 :: 10 ::
    ((others.map encode).flatMap (· ++ [13, 10]) ++
      (encode ("Content-Type: " ++ contentType) ++ [13])), ?_⟩
  rw [encode_head]
  simp [headerLines, fields, others]

theorem split_lines {lines : List (List UInt8)} (hlines : ∀ line ∈ lines, 10 ∉ line)
    (rest : List UInt8) :
    Parts.split (· = 10) (lines.flatMap (· ++ [10]) ++ rest) =
      lines ++ Parts.split (· = 10) rest := by
  induction lines with
  | nil => rfl
  | cons line lines ih =>
    obtain ⟨hline, hlines⟩ := List.forall_mem_cons.mp hlines
    have hnone : ∀ octet ∈ line, decide (octet = (10 : UInt8)) = false := fun octet hoctet =>
      decide_eq_false fun hbreak => hline (hbreak ▸ hoctet)
    rw [List.flatMap_cons, List.append_assoc, List.append_assoc, List.singleton_append,
      Parts.split_mark line (decide_eq_true rfl), Parts.split_of_none hnone, ih hlines]
    rfl

/-- The last header line of a head is the one that gives the length, however its lines
break. -/
theorem last_of_lines {endpoint : Endpoint} {contentType : String} {length : Nat}
    {line blank : List UInt8} {lines : List (List UInt8)}
    (hhead : encode (head endpoint contentType length) =
      line ++ 10 :: (lines.flatMap (· ++ [10]) ++ (blank ++ [10])))
    (hline : 10 ∉ line) (hlines : ∀ text ∈ lines, Visible text) (hbreak : 10 ∉ blank) :
    ∃ others, lines =
      others ++ [encode (lengthName ++ ": " ++ toString length) ++ [13]] := by
  obtain ⟨front, hend⟩ := encode_head_end endpoint contentType length
  let last := encode (lengthName ++ ": " ++ toString length) ++ [13]
  have hall : ∀ text ∈ line :: (lines ++ [blank]), 10 ∉ text := by
    refine List.forall_mem_cons.mpr ⟨hline, fun text hmember => ?_⟩
    rcases List.mem_append.mp hmember with hmember | hmember
    · exact (hlines text hmember).1
    · rwa [List.mem_singleton.mp hmember]
  have hends : ∀ text ∈ [last, [13]], 10 ∉ text :=
    List.forall_mem_cons.mpr ⟨(visible_length length).returned.1, by decide⟩
  have hleft : line ++ 10 :: (lines.flatMap (· ++ [10]) ++ (blank ++ [10])) =
      (line :: (lines ++ [blank])).flatMap (· ++ [10]) ++ [] := by
    simp
  have hright : front ++ 10 :: (last ++ 10 :: ([13] ++ 10 :: [])) =
      front ++ 10 :: ([last, [13]].flatMap (· ++ [10]) ++ []) := by
    simp
  have hsplit := congrArg (Parts.split (· = 10)) (hhead.symm.trans hend)
  rw [hleft, hright, split_lines hall, Parts.split_mark front (decide_eq_true rfl),
    split_lines hends, Parts.split] at hsplit
  obtain ⟨first, more, hfront⟩ :=
    List.exists_cons_of_ne_nil (Parts.split_ne_nil (· = 10) front)
  rw [hfront] at hsplit
  have htails : lines ++ [blank, []] = (more ++ [last]) ++ [[13], []] := by
    have htail := (List.cons.inj hsplit).2
    simpa using htail
  exact ⟨more, (List.append_inj' htails rfl).1⟩

theorem length_of_lines {lines : List (List UInt8)} {length : Nat} {others : List (List UInt8)}
    (hlast : lines = others ++ [encode (lengthName ++ ": " ++ toString length) ++ [13]]) :
    bodyLength (lines.map trimEnd) = length := by
  have htrim : lengthIn? (trimEnd (encode (lengthName ++ ": " ++ toString length) ++ [13])) =
      some length := by
    rw [trimEnd, Parts.trimEnd_append rfl]
    exact lengthIn?_length length
  rw [bodyLength, hlast, List.map_append, List.map_singleton, List.filterMap_append,
    List.filterMap_cons_some htrim, List.filterMap_nil, List.getLastD_concat]

theorem recovered_of_oneHead {endpoint : Endpoint} {contentType : String} {body : List UInt8}
    (hhead : OneHead (encode (head endpoint contentType body.length))) :
    Recovered (post endpoint contentType body) body := by
  obtain ⟨line, lines, blank, hoctets, hline, hlines, hbreak, hblank⟩ := hhead
  obtain ⟨others, hlast⟩ := last_of_lines hoctets hline hlines hbreak
  have htake : takeRequest? (post endpoint contentType body) =
      some (⟨encode (head endpoint contentType body.length), trimEnd line, lines.map trimEnd,
        body⟩, []) := by
    have hread := takeRequest?_lines hline hlines hbreak hblank (length_of_lines hlast) []
    rw [List.append_nil] at hread
    rw [post, hoctets]
    exact hread
  exact recovered_of_takeRequest? htake rfl

/-! ## Options -/

theorem inline_ofOptions_iff (options : Options) :
    Inline (.ofOptions options) ↔
      '\n' ∉ options.serviceHost.toList ∧ '\n' ∉ options.servicePath.toList := by
  constructor
  · rintro ⟨hhost, hpath⟩
    refine ⟨hhost, fun hbreak => hpath ?_⟩
    show '\n' ∈ (Endpoint.rooted options.servicePath).toList
    rw [Endpoint.rooted]
    split
    · exact hbreak
    · rw [String.toList_append]
      exact List.mem_append_right _ hbreak
  · exact fun hinline => inline_make hinline.1 hinline.2

/-- A frame has the layout of one request exactly if the host and the path that the options
give hold no line feed, and then the other side finds its body. It does so exactly if no
line of the head is blank but the last. -/
theorem laid_out_by_options (options : Options) (codec : Codec) (body : List UInt8) :
    let endpoint := Endpoint.ofOptions options
    let frame := post endpoint codec.contentType body
    (LaidOut frame body ↔
      '\n' ∉ options.serviceHost.toList ∧ '\n' ∉ options.servicePath.toList) ∧
    (LaidOut frame body → Recovered frame body) ∧
    (Recovered frame body ↔ OneHead (encode (head endpoint codec.contentType body.length))) := by
  intro endpoint frame
  have hlaid : LaidOut frame body ↔ Inline endpoint :=
    ⟨inline_of_laidOut, fun hinline => laidOut_post hinline codec body⟩
  exact ⟨hlaid.trans (inline_ofOptions_iff options), recovered_of_laidOut,
    oneHead_of_recovered, recovered_of_oneHead⟩

/-- A path that ends one request and begins another. -/
def Broken.options : Options where
  servicePath := "/a HTTP/1.1\r\nContent-Length: 7\r\n\r\n1234567POST /b"

/-- These options are accepted, and each frame of theirs is two requests. -/
theorem two_requests_in_frame :
    let frame := post (.ofOptions Broken.options) Codec.binary.contentType [1, 2, 3]
    Broken.options.validate = .ok () ∧
    (readRequests frame).1.map (·.body) = [encode "1234567", [1, 2, 3]] ∧
    ¬ LaidOut frame [1, 2, 3] ∧ ¬ Recovered frame [1, 2, 3] := by
  intro frame
  have hbodies : (readRequests frame).1.map (·.body) = [encode "1234567", [1, 2, 3]] := by
    decide +kernel
  refine ⟨rfl, hbodies, fun hlaid => ?_, ?_⟩
  · exact absurd (inline_of_laidOut hlaid).path (by decide)
  · rintro ⟨request, hread, _⟩
    have hcount := congrArg List.length hbodies
    rw [hread] at hcount
    simp at hcount

end Frame

end Telemetry
