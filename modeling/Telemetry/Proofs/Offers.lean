import Telemetry.Proofs.Opening

/-!
The writing of a frame, offer by offer. An offer is a slice of the frame, from the
octets that were sent to the end of the next chunk, and the connection says how much of
it the write took. Every slice lies in the frame and keeps to the limit, whatever the
writes give.

The end of a chunk is a sum of 64 bits that is cut down to the length of the frame only
afterwards. A limit near the greatest number therefore stops the loop with a panic once
a write has taken a part of the frame.
-/

namespace Telemetry

/-- How many octets a write takes that is offered so many. -/
def WriteResult.taken (offered : Nat) : WriteResult → Nat
  | .took most => min most offered
  | .interrupted | .failed _ => 0

/-- The octets of a frame from one index up to another, and how their write ended. -/
structure Offer where
  start : Nat
  stop : Nat
  result : WriteResult
  deriving DecidableEq, Repr

namespace Offer

/-- How much of the frame is sent afterwards. -/
def next (offer : Offer) : Nat :=
  offer.start + offer.result.taken (offer.stop - offer.start)

/-- The octets that the write took, if it counted them. -/
def chunk? (frame : List UInt8) (offer : Offer) : Option (List UInt8) :=
  match offer.result with
  | .took most => some ((frame.drop offer.start).take (min most (offer.stop - offer.start)))
  | .interrupted | .failed _ => none

/-- Another offer may follow: the write took something, or is to be made again. -/
def goesOn (offer : Offer) : Bool :=
  match offer.result with
  | .took most => 0 < min most (offer.stop - offer.start)
  | .interrupted => true
  | .failed _ => false

theorem start_le_next (offer : Offer) : offer.start ≤ offer.next :=
  Nat.le_add_right _ _

theorem next_le_stop {offer : Offer} (hslice : offer.start < offer.stop) :
    offer.next ≤ offer.stop := by
  unfold next WriteResult.taken
  split
  · omega
  · omega
  · omega

/-- A write that counts octets brings the loop further. -/
theorem start_lt_next {offer : Offer} (hslice : offer.start < offer.stop) {most : Nat}
    (hresult : offer.result = .took most) (hcounts : 0 < most) : offer.start < offer.next := by
  unfold next
  rw [hresult, WriteResult.taken]
  omega

/-- The last offer of a loop that stops has brought it no further. -/
theorem next_of_stops {offer : Offer} (hstops : offer.goesOn = false) :
    offer.next = offer.start := by
  unfold goesOn at hstops
  unfold next
  cases hresult : offer.result with
  | took most =>
    rw [hresult, decide_eq_false_iff_not] at hstops
    rw [WriteResult.taken]
    omega
  | interrupted => rfl
  | failed reason => rfl

end Offer

namespace Persistent

/-- The end of the next chunk. -/
def Chunking.stop (c : Chunking) (sent : Nat) : Nat :=
  min (sent + c.maxChunk) c.total

/-- The next offer. A write of which nothing is given takes all of it. -/
def Chunking.offer (c : Chunking) (sent : Nat) (results : List WriteResult) : Offer :=
  ⟨sent, c.stop sent, results.head?.getD (.took (c.stop sent - sent))⟩

theorem Chunking.next_offer_nil (c : Chunking) {sent : Nat} (hmore : sent < c.stop sent) :
    (c.offer sent []).next = c.stop sent := by
  unfold Offer.next Chunking.offer
  rw [List.head?_nil, Option.getD_none]
  dsimp only [WriteResult.taken]
  omega

/-- The offers from an index on, as long as there are octets to offer and the writes do
not fail. -/
def Chunking.offers (c : Chunking) (sent : Nat) (results : List WriteResult) : List Offer :=
  if c.stop sent ≤ sent ∨ c.overflows sent = true then []
  else
    let offer := c.offer sent results
    if offer.goesOn then offer :: c.offers offer.next results.tail else [offer]
termination_by results.length + (c.total - sent)
decreasing_by
  next hmore _ =>
    have hstop : c.stop sent ≤ c.total := Nat.min_le_right _ _
    cases results with
    | nil =>
      rw [c.next_offer_nil (by omega), List.tail_nil]
      omega
    | cons result results =>
      have hnext : sent ≤ (c.offer sent (result :: results)).next :=
        (c.offer sent (result :: results)).start_le_next
      rw [List.tail_cons, List.length_cons]
      omega

end Persistent

/-! ## The slices -/

/-- The slice lies in the frame, is not empty and keeps to the limit, and its end is the
sum of two numbers that passes no index. -/
structure Offer.Within (offer : Offer) (c : Persistent.Chunking) : Prop where
  nonempty : offer.start < offer.stop
  inFrame : offer.stop ≤ c.total
  limited : offer.stop - offer.start ≤ c.maxChunk
  indexed : offer.start + c.maxChunk < 0x10000000000000000

/-- What the write took and what the next offer starts from are the rest of the frame. -/
theorem Offer.flatten_chunk? (offer : Offer) (frame : List UInt8) :
    (offer.chunk? frame).toList.flatten ++ frame.drop offer.next = frame.drop offer.start := by
  unfold Offer.chunk? Offer.next
  cases offer.result with
  | took most =>
    rw [WriteResult.taken, ← List.drop_drop]
    simp only [Option.toList_some, List.flatten_cons, List.flatten_nil, List.append_nil]
    exact List.take_append_drop _ _
  | interrupted => rfl
  | failed reason => rfl

namespace Persistent

/-- The chunks of a frame that are written from one index to another, offer by offer. -/
structure Chunking.Offered (c : Chunking) (frame : List UInt8) (sent reached : Nat)
    (results : List WriteResult) (offers : List Offer) (chunks : List (List UInt8)) : Prop where
  within : ∀ offer ∈ offers, offer.Within c
  linked : offers.map (·.start) ++ [reached] = sent :: offers.map (·.next)
  answered : ∀ (i : Nat) offer, offers[i]? = some offer →
    offer.result = results[i]?.getD (.took (offer.stop - offer.start))
  made : chunks = offers.filterMap (·.chunk? frame)
  octets : chunks.flatten ++ frame.drop reached = frame.drop sent

theorem Chunking.Offered.nil (c : Chunking) (frame : List UInt8) (sent : Nat)
    (results : List WriteResult) : c.Offered frame sent sent results [] [] where
  within := List.forall_mem_nil _
  linked := rfl
  answered := by
    intro i offer hoffer
    cases hoffer
  made := rfl
  octets := rfl

/-- One offer, and then those of what is left. -/
theorem Chunking.Offered.cons {c : Chunking} {frame : List UInt8} {sent reached : Nat}
    {results : List WriteResult} {offers : List Offer} {chunks : List (List UInt8)}
    (hwithin : (c.offer sent results).Within c)
    (hlater : c.Offered frame (c.offer sent results).next reached results.tail offers chunks) :
    c.Offered frame sent reached results (c.offer sent results :: offers)
      (((c.offer sent results).chunk? frame).toList ++ chunks) where
  within := List.forall_mem_cons.mpr ⟨hwithin, hlater.within⟩
  linked := by
    rw [List.map_cons, List.map_cons, List.cons_append, hlater.linked]
    rfl
  answered := by
    intro i offer hoffer
    cases i with
    | zero =>
      rw [List.getElem?_cons_zero] at hoffer
      obtain rfl := Option.some.inj hoffer
      rw [← List.head?_eq_getElem?]
      rfl
    | succ i =>
      rw [List.getElem?_cons_succ] at hoffer
      rw [← List.getElem?_tail]
      exact hlater.answered i offer hoffer
  made := by
    rw [hlater.made]
    cases hchunk : (c.offer sent results).chunk? frame with
    | none => rw [List.filterMap_cons_none hchunk]; rfl
    | some chunk => rw [List.filterMap_cons_some hchunk]; rfl
  octets := by
    rw [List.flatten_append, List.append_assoc, hlater.octets]
    exact Offer.flatten_chunk? _ frame

/-- Where the loop has stopped, and why. -/
def WriteEnd.At (ending : WriteEnd) (c : Chunking) (offers : List Offer) (reached : Nat) : Prop :=
  match ending with
  | .complete => c.total ≤ reached
  | .overflow => reached < c.total ∧ 0x10000000000000000 ≤ reached + c.maxChunk
  | .failed _ =>
    reached + c.maxChunk < 0x10000000000000000 ∧ ∃ offer ∈ offers, offer.goesOn = false

theorem WriteEnd.At.cons {ending : WriteEnd} {c : Chunking} {offers : List Offer} {reached : Nat}
    (offer : Offer) (hended : ending.At c offers reached) :
    ending.At c (offer :: offers) reached := by
  cases ending with
  | complete => exact hended
  | overflow => exact hended
  | failed error =>
    obtain ⟨hindex, other, hmember, hstops⟩ := hended
    exact ⟨hindex, other, List.mem_cons_of_mem offer hmember, hstops⟩

/-! ## The loop -/

theorem Chunking.slice_of_more {c : Chunking} {sent : Nat}
    (hmore : ¬(c.stop sent ≤ sent ∨ c.overflows sent = true)) :
    sent < c.stop sent ∧ c.overflows sent = false := by
  obtain ⟨hslice, hindex⟩ := not_or.mp hmore
  exact ⟨Nat.lt_of_not_le hslice, Bool.eq_false_iff.mpr hindex⟩

theorem Chunking.within_offer {c : Chunking} {sent : Nat} (results : List WriteResult)
    (hmore : sent < c.stop sent) (hindex : c.overflows sent = false) :
    (c.offer sent results).Within c := by
  unfold Chunking.overflows at hindex
  rw [decide_eq_false_iff_not] at hindex
  unfold Chunking.stop at hmore
  refine ⟨hmore, Nat.min_le_right _ _, ?_, Nat.lt_of_not_le hindex⟩
  show min (sent + c.maxChunk) c.total - sent ≤ c.maxChunk
  omega

/-- Nothing is left to write, or the end of the next chunk has no index. -/
theorem writeRest_none {c : Chunking} {sent : Nat} {rest : List UInt8}
    (hlength : rest.length = c.total - sent) (hlimit : 0 < c.maxChunk)
    (hnone : c.stop sent ≤ sent ∨ c.overflows sent = true) (results : List WriteResult) :
    (writeRest c sent rest results).chunks = [] ∧
      (writeRest c sent rest results).ending.At c [] sent := by
  by_cases hrest : rest.length = 0
  · have hcomplete : writeRest c sent rest results = ⟨[], .complete, []⟩ := by
      cases results with
      | nil => rw [writeRest, writeFreely, if_pos hrest]
      | cons result results => exact if_pos hrest
    rw [hcomplete]
    exact ⟨rfl, show c.total ≤ sent by omega⟩
  · have hindex : c.overflows sent = true :=
      hnone.resolve_left (by unfold Chunking.stop; omega)
    have hoverflow : writeRest c sent rest results = ⟨[], .overflow, []⟩ := by
      cases results with
      | nil => rw [writeRest, writeFreely, if_neg hrest, if_pos hindex]
      | cons result results => exact (if_neg hrest).trans (if_pos hindex)
    rw [hoverflow]
    exact ⟨rfl, by omega, of_decide_eq_true hindex⟩

/-- One turn of the loop. -/
theorem writeRest_offer {c : Chunking} {sent : Nat} {rest : List UInt8}
    (hlength : rest.length = c.total - sent) (hmore : sent < c.stop sent)
    (hindex : c.overflows sent = false) (results : List WriteResult) :
    writeRest c sent rest results =
      match (c.offer sent results).result with
      | .interrupted => writeRest c sent rest results.tail
      | .failed reason => ⟨[], .failed (.write sent c.total reason), []⟩
      | .took most =>
        let chunk := rest.take (min most (c.stop sent - sent))
        if chunk.length = 0 then ⟨[[]], .failed (.zeroWrite sent c.total), []⟩
        else
          let sent := sent + chunk.length
          .after chunk (c.remark chunk.length sent)
            (writeRest c sent (rest.drop chunk.length) results.tail) := by
  have hslice : c.stop sent - sent = min c.maxChunk rest.length := by
    unfold Chunking.stop
    omega
  have hrest : rest.length ≠ 0 := by omega
  have hunindexed : ¬c.overflows sent = true := by rw [hindex]; exact Bool.false_ne_true
  cases results with
  | nil =>
    have hlimit : c.maxChunk ≠ 0 := by omega
    have hchunk : rest.take (c.stop sent - sent) = rest.take c.maxChunk := by
      rw [hslice]
      exact List.take_eq_take_iff.mpr (by omega)
    have hdrop : rest.drop (rest.take c.maxChunk).length = rest.drop c.maxChunk := by
      rw [List.length_take]
      rcases Nat.le_total c.maxChunk rest.length with hle | hle
      · rw [Nat.min_eq_left hle]
      · rw [Nat.min_eq_right hle, List.drop_length, List.drop_eq_nil_of_le hle]
    rw [writeRest, writeFreely, if_neg hrest, if_neg hunindexed, if_neg hlimit]
    simp only [Chunking.offer, List.head?_nil, Option.getD_none, Nat.min_self, hchunk, hdrop,
      List.tail_nil, writeRest]
    rw [if_neg (by rw [List.length_take]; omega)]
  | cons result results =>
    refine (if_neg hrest).trans ((if_neg hunindexed).trans ?_)
    cases result with
    | took most =>
      have hchunk : (rest.take c.maxChunk).take most =
          rest.take (min most (c.stop sent - sent)) := by
        rw [List.take_take, hslice]
        exact List.take_eq_take_iff.mpr (by omega)
      simp only [hchunk]
      rfl
    | interrupted => rfl
    | failed reason => rfl

/-- The loop goes on behind what the write took. -/
theorem writeRest_goesOn {c : Chunking} {frame : List UInt8} {sent : Nat}
    {results : List WriteResult} (htotal : c.total = frame.length) (hmore : sent < c.stop sent)
    (hindex : c.overflows sent = false) (hgoes : (c.offer sent results).goesOn = true) :
    let later := writeRest c (c.offer sent results).next
      (frame.drop (c.offer sent results).next) results.tail
    (writeRest c sent (frame.drop sent) results).chunks =
        ((c.offer sent results).chunk? frame).toList ++ later.chunks ∧
      (writeRest c sent (frame.drop sent) results).ending = later.ending := by
  have hlength : (frame.drop sent).length = c.total - sent := by rw [List.length_drop, htotal]
  have hstop : c.stop sent ≤ c.total := Nat.min_le_right _ _
  rw [writeRest_offer hlength hmore hindex]
  unfold Offer.goesOn at hgoes
  unfold Offer.next Offer.chunk?
  cases hresult : (c.offer sent results).result with
  | took most =>
    rw [hresult] at hgoes
    have hsome : 0 < min most (c.stop sent - sent) := of_decide_eq_true hgoes
    have hchunk : ((frame.drop sent).take (min most (c.stop sent - sent))).length =
        min most (c.stop sent - sent) := by
      rw [List.length_take, hlength]
      omega
    dsimp only
    rw [hchunk, if_neg (Nat.ne_of_gt hsome), List.drop_drop]
    exact ⟨rfl, rfl⟩
  | interrupted => exact ⟨rfl, rfl⟩
  | failed reason =>
    rw [hresult] at hgoes
    cases hgoes

/-- A write that took nothing, or failed, is the last. -/
theorem writeRest_stops {c : Chunking} {frame : List UInt8} {sent : Nat}
    {results : List WriteResult} (htotal : c.total = frame.length) (hmore : sent < c.stop sent)
    (hindex : c.overflows sent = false) (hstops : (c.offer sent results).goesOn = false) :
    ∃ error, writeRest c sent (frame.drop sent) results =
      ⟨((c.offer sent results).chunk? frame).toList, .failed error, []⟩ := by
  rw [writeRest_offer (by rw [List.length_drop, htotal]) hmore hindex]
  unfold Offer.goesOn at hstops
  unfold Offer.chunk?
  cases hresult : (c.offer sent results).result with
  | took most =>
    rw [hresult] at hstops
    have hnone : min most (c.stop sent - sent) = 0 :=
      Nat.eq_zero_of_not_pos (of_decide_eq_false hstops)
    refine ⟨.zeroWrite sent c.total, ?_⟩
    dsimp only [Chunking.offer]
    rw [hnone]
    rfl
  | interrupted =>
    rw [hresult] at hstops
    cases hstops
  | failed reason => exact ⟨.write sent c.total reason, rfl⟩

theorem writeRest_offered {c : Chunking} {frame : List UInt8} (htotal : c.total = frame.length)
    (hlimit : 0 < c.maxChunk) (sent : Nat) (results : List WriteResult) :
    let writing := writeRest c sent (frame.drop sent) results
    ∃ reached, c.Offered frame sent reached results (c.offers sent results) writing.chunks ∧
      writing.ending.At c (c.offers sent results) reached := by
  dsimp only
  fun_induction Chunking.offers c sent results with
  | case1 sent results hnone =>
    obtain ⟨hchunks, hended⟩ :=
      writeRest_none (by rw [List.length_drop, htotal]) hlimit hnone results
    rw [hchunks]
    exact ⟨sent, .nil c frame sent results, hended⟩
  | case2 sent results hmore offer hgoes ih =>
    obtain ⟨hslice, hindex⟩ := Chunking.slice_of_more hmore
    obtain ⟨reached, hlater, hended⟩ := ih
    obtain ⟨hchunks, hending⟩ := writeRest_goesOn htotal hslice hindex hgoes
    rw [hchunks, hending]
    exact ⟨reached, .cons (Chunking.within_offer results hslice hindex) hlater,
      WriteEnd.At.cons offer hended⟩
  | case3 sent results hmore offer hstops =>
    obtain ⟨hslice, hindex⟩ := Chunking.slice_of_more hmore
    have hstops : offer.goesOn = false := Bool.eq_false_iff.mpr hstops
    have hwithin : offer.Within c := Chunking.within_offer results hslice hindex
    obtain ⟨error, hwriting⟩ := writeRest_stops htotal hslice hindex hstops
    rw [hwriting]
    refine ⟨offer.next, ?_, ?_, offer, List.mem_singleton_self offer, hstops⟩
    · have hoffered := Chunking.Offered.cons hwithin (.nil c frame offer.next results.tail)
      rwa [List.append_nil] at hoffered
    · rw [Offer.next_of_stops hstops]
      exact hwithin.indexed

/-- The loop panics exactly where an offer ends inside the frame and the next chunk has no
end. -/
theorem WriteEnd.At.overflow_iff {ending : WriteEnd} {c : Chunking} {frame : List UInt8}
    {reached : Nat} {results : List WriteResult} {offers : List Offer}
    {chunks : List (List UInt8)} (hended : ending.At c offers reached)
    (hoffered : c.Offered frame 0 reached results offers chunks)
    (hword : c.maxChunk < 0x10000000000000000) :
    ending = .overflow ↔ ∃ offer ∈ offers, offer.next < c.total ∧
      0x10000000000000000 ≤ offer.next + c.maxChunk := by
  constructor
  · rintro rfl
    obtain ⟨hleft, hindex⟩ := hended
    have hreached : reached ∈ 0 :: offers.map (·.next) := by
      rw [← hoffered.linked]
      exact List.mem_append_right _ (List.mem_singleton_self reached)
    rcases List.mem_cons.mp hreached with rfl | hnext
    · omega
    · obtain ⟨offer, hmember, rfl⟩ := List.mem_map.mp hnext
      exact ⟨offer, hmember, hleft, hindex⟩
  · rintro ⟨offer, hmember, hleft, hindex⟩
    have hnext : offer.next ∈ offers.map (·.start) ++ [reached] := by
      rw [hoffered.linked]
      exact List.mem_cons_of_mem 0 (List.mem_map.mpr ⟨offer, hmember, rfl⟩)
    rcases List.mem_append.mp hnext with hstart | hlast
    · -- An offer that starts there would have had an end.
      obtain ⟨later, hlater, hstart⟩ := List.mem_map.mp hstart
      have hindexed := (hoffered.within later hlater).indexed
      omega
    · have hlast : offer.next = reached := List.mem_singleton.mp hlast
      cases ending with
      | complete =>
        have hall : c.total ≤ reached := hended
        omega
      | overflow => rfl
      | failed error =>
        have hfailed : reached + c.maxChunk < 0x10000000000000000 := hended.1
        omega

/-- A loop that neither panics nor meets a write that stops it has taken the frame. -/
theorem Chunking.Offered.whole {c : Chunking} {frame : List UInt8} {reached : Nat}
    {results : List WriteResult} {offers : List Offer} {chunks : List (List UInt8)}
    {ending : WriteEnd} (hoffered : c.Offered frame 0 reached results offers chunks)
    (htotal : c.total = frame.length) (hended : ending.At c offers reached)
    (hindex : ending ≠ .overflow) (hgoes : ∀ offer ∈ offers, offer.goesOn = true) :
    chunks.flatten = frame := by
  cases ending with
  | complete =>
    have hnothing : frame.drop reached = [] := List.drop_eq_nil_of_le (htotal ▸ hended)
    have hoctets := hoffered.octets
    rwa [hnothing, List.append_nil, List.drop_zero] at hoctets
  | overflow => exact absurd rfl hindex
  | failed error =>
    obtain ⟨_, offer, hmember, hstops⟩ := hended
    rw [hgoes offer hmember] at hstops
    cases hstops

/-- Flushing the connection changes neither the chunks nor whether the loop panicked. -/
theorem writeAll_eq (c : Chunking) (frame : List UInt8) (conduct : Conduct) :
    (writeAll c frame conduct).chunks = (writeRest c 0 frame conduct.writes).chunks ∧
      ((writeAll c frame conduct).ending = .overflow ↔
        (writeRest c 0 frame conduct.writes).ending = .overflow) := by
  unfold writeAll
  dsimp only
  split
  next reason hcomplete _ =>
    rw [hcomplete]
    exact ⟨rfl, by constructor <;> intro hoverflow <;> cases hoverflow⟩
  next => exact ⟨rfl, Iff.rfl⟩

end Persistent

theorem Options.validate_ok_iff (options : Options) :
    options.validate = .ok () ↔ options.serviceHost ≠ "" ∧
      options.connect.maxBytesPerWrite ≠ 0 ∧
      options.connect.connectTimeout.isZero = false := by
  unfold Options.validate
  split
  next hhost => simp [hhost]
  next hhost =>
    split
    next hlimit => simp [hlimit]
    next hlimit =>
      split
      next htimeout => simp [htimeout]
      next htimeout => simp [hhost, hlimit, htimeout]

namespace Exchange

open Persistent

/-! ## One send -/

/-- The frame, which is empty for a call that has no form. -/
def frame (e : Exchange) : List UInt8 :=
  e.frame?.getD []

def chunking (e : Exchange) : Chunking :=
  ⟨e.frame.length, e.before.connect.maxBytesPerWrite, e.before.debug⟩

/-- The offers that the send makes on the connection that it has reached. -/
def offers (e : Exchange) : List Offer :=
  match e.reached.result with
  | .ok (_, conduct) => e.chunking.offers 0 conduct.writes
  | .error _ => []

/-- How a send writes its frame. -/
structure Chunked (e : Exchange) : Prop where
  within : ∀ offer ∈ e.offers, offer.Within e.chunking
  /-- Nothing is taken that was not offered, and a write that counts octets brings the
  loop further. -/
  grows : ∀ offer ∈ e.offers, offer.next ≤ offer.stop ∧
    ∀ most, offer.result = .took most → 0 < most → offer.start < offer.next
  /-- The first offer starts the frame, and each other one where the one before it has
  ended. -/
  linked : ∃ reached,
    e.offers.map (·.start) ++ [reached] = 0 :: e.offers.map (·.next)
  /-- The writes of the connection answer the offers in their order. -/
  answered : ∀ connection conduct, e.reached.result = .ok (connection, conduct) →
    ∀ (i : Nat) offer, e.offers[i]? = some offer →
      offer.result = conduct.writes[i]?.getD (.took (offer.stop - offer.start))
  /-- What is written are the parts taken of the slices. -/
  made : (e.sent.written.map (·.chunks)).getD [] = e.offers.filterMap (·.chunk? e.frame)
  /-- The send panics exactly if a part of the frame was taken behind which the end of
  the next chunk has no index. -/
  panicked : e.answer = .panicked ↔ ∃ offer ∈ e.offers, offer.next < e.frame.length ∧
    0x10000000000000000 ≤ offer.next + e.before.connect.maxBytesPerWrite
  /-- Else the whole frame is taken, unless a write fails. -/
  whole : ∀ found, e.reached.result = .ok found → e.answer ≠ .panicked →
    (∀ offer ∈ e.offers, offer.goesOn = true) → e.octets = e.frame

theorem offers_of_nothing {e : Exchange} (hframe : e.frame = []) : e.offers = [] := by
  unfold offers
  split
  next conduct _ =>
    have hstop : e.chunking.stop 0 ≤ 0 := by
      unfold Chunking.stop chunking
      rw [hframe]
      exact Nat.min_le_right _ _
    rw [Chunking.offers, if_pos (Or.inl hstop)]
  next => rfl

/-- A send that does not come to write. -/
theorem chunked_of_unwritten {e : Exchange} (hoffers : e.offers = [])
    (hwritten : e.sent.written = none) (hanswer : e.answer ≠ .panicked)
    (hframe : ∀ found, e.reached.result = .ok found → e.frame = []) : e.Chunked where
  within := by rw [hoffers]; exact List.forall_mem_nil _
  grows := by rw [hoffers]; exact List.forall_mem_nil _
  linked := ⟨0, by rw [hoffers]; rfl⟩
  answered := by
    intro _ _ _ i offer hoffer
    rw [hoffers] at hoffer
    cases hoffer
  made := by rw [hwritten, hoffers]; rfl
  panicked := by
    rw [hoffers]
    exact ⟨fun hpanicked => absurd hpanicked hanswer,
      fun hmember => absurd hmember (by simp)⟩
  whole := by
    intro found hfound _ _
    rw [hframe found hfound, octets, Sent.octets, hwritten]
    rfl

/-- What a send writes on the connection that it has reached. -/
theorem written_of_reached {e : Exchange} {frame : List UInt8} (hframe : e.frame? = some frame)
    {connection : Nat} {conduct : Conduct}
    (hreached : e.reached.result = .ok (connection, conduct)) :
    let writing := writeAll e.chunking frame conduct
    e.sent.written = some ⟨connection, writing.chunks⟩ ∧
      (e.answer = .panicked ↔ writing.ending = .overflow) := by
  have hsetup := setup_reach { e.before with seqId := e.before.seqId + 1 } e.network
  have hchunking : e.chunking =
      ⟨frame.length, e.reached.next.connect.maxBytesPerWrite, e.reached.next.debug⟩ := by
    unfold chunking Exchange.frame reached
    rw [hsetup.connect, hsetup.debug, hframe]
    rfl
  have hreach : ({ e.before with seqId := e.before.seqId + 1 }.reach e.network).result =
      .ok (connection, conduct) := hreached
  rw [hchunking, answer, sent_of_frame? hframe]
  unfold sendFrame reached
  dsimp only
  rw [hreach]
  dsimp only
  split
  next hcomplete => rw [hcomplete]; exact ⟨rfl, by constructor <;> intro h <;> cases h⟩
  next error hfailed => rw [hfailed]; exact ⟨rfl, by constructor <;> intro h <;> cases h⟩
  next hoverflow => exact ⟨rfl, fun _ => hoverflow, fun _ => rfl⟩

theorem chunked_of_reached {e : Exchange} {frame : List UInt8} (hframe : e.frame? = some frame)
    {connection : Nat} {conduct : Conduct}
    (hreached : e.reached.result = .ok (connection, conduct))
    (hlimit : 0 < e.before.connect.maxBytesPerWrite)
    (hword : e.before.connect.maxBytesPerWrite < 0x10000000000000000) : e.Chunked := by
  have hsame : e.frame = frame := by rw [Exchange.frame, hframe]; rfl
  have htotal : e.chunking.total = frame.length := congrArg List.length hsame
  have hoffers : e.offers = e.chunking.offers 0 conduct.writes := by rw [offers, hreached]
  obtain ⟨hwritten, hpanicked⟩ := written_of_reached hframe hreached
  obtain ⟨hchunks, hoverflow⟩ := writeAll_eq e.chunking frame conduct
  rw [hchunks] at hwritten
  have hpanicked := hpanicked.trans hoverflow
  obtain ⟨reached, hoffered, hended⟩ :=
    writeRest_offered htotal (show 0 < e.chunking.maxChunk from hlimit) 0 conduct.writes
  rw [List.drop_zero, ← hoffers] at hoffered hended
  constructor
  case within => exact hoffered.within
  case grows =>
    intro offer hmember
    have hslice := (hoffered.within offer hmember).nonempty
    exact ⟨Offer.next_le_stop hslice, fun most => Offer.start_lt_next hslice⟩
  case linked => exact ⟨reached, hoffered.linked⟩
  case answered =>
    intro _ other hother
    rw [hreached] at hother
    obtain rfl := (Prod.mk.inj (Except.ok.inj hother)).2
    exact hoffered.answered
  case made =>
    rw [hwritten, hsame]
    exact hoffered.made
  case panicked =>
    rw [hpanicked, hended.overflow_iff hoffered hword, htotal, hsame]
    rfl
  case whole =>
    intro found _ hanswer hgoes
    rw [octets, Sent.octets, hwritten, hsame]
    exact hoffered.whole htotal hended (fun hending => hanswer (hpanicked.mpr hending)) hgoes

theorem chunked {e : Exchange} (hlimit : 0 < e.before.connect.maxBytesPerWrite)
    (hword : e.before.connect.maxBytesPerWrite < 0x10000000000000000) : e.Chunked := by
  cases hframe : e.frame? with
  | none =>
    obtain ⟨error, hsent⟩ := sent_of_frame?_none hframe
    have hnothing : e.frame = [] := by rw [Exchange.frame, hframe]; rfl
    refine chunked_of_unwritten (offers_of_nothing hnothing) (by rw [hsent]) ?_
      (fun _ _ => hnothing)
    rw [answer, hsent]
    intro hpanicked
    cases hpanicked
  | some frame =>
    cases hreached : e.reached.result with
    | error error =>
      have hsent := (sent_of_frame? hframe).trans (sendFrame_error hreached)
      refine chunked_of_unwritten (by rw [offers, hreached]) (by rw [hsent]) ?_ ?_
      · rw [answer, hsent]
        intro hpanicked
        cases hpanicked
      · intro found hfound
        rw [hreached] at hfound
        cases hfound
    | ok found => exact chunked_of_reached hframe hreached hlimit hword

end Exchange

namespace Persistent

/-! ## A run -/

/-- Every send of a transport whose options are accepted writes slices of its frame that
keep to the limit, one behind the other. It panics exactly if a part of the frame is taken
that leaves no index for the end of the next chunk. -/
theorem chunks_in_frame (options : Options) (hvalid : options.validate = .ok ())
    (hword : options.connect.maxBytesPerWrite < 0x10000000000000000) (t : Persistent)
    (hconnect : t.connect = options.connect) (uses : List Use) :
    ∀ e ∈ t.sends uses, e.Chunked := by
  intro e hmember
  have hsame : e.before.connect = options.connect :=
    (setup_run uses e hmember).connect.trans hconnect
  have hlimit : 0 < options.connect.maxBytesPerWrite :=
    Nat.pos_of_ne_zero (options.validate_ok_iff.mp hvalid).2.1
  rw [← hsame] at hlimit hword
  exact Exchange.chunked hlimit hword

/-- All defaults but the limit of a write. -/
def Brim.options (limit : Nat) : Options where
  connect := { maxBytesPerWrite := limit }

/-- An empty report, on a new connection with these writes. -/
def Brim.exchange (limit : Nat) (writes : List WriteResult) : Exchange :=
  ⟨.ofOptions (Brim.options limit), ⟨""⟩, ⟨⟨"", 0, ""⟩, 1, 2, [], [], []⟩,
    ⟨.ok [""], fun _ => .ok { writes }, {}⟩⟩

/-- Fifty below the end of the indices two writes stop early. The first leaves room for
another chunk, and the second does not. -/
def Brim.torn : Exchange :=
  Brim.exchange 0xffffffffffffffce [.took 7, .interrupted, .took 60]

theorem chunks_in_frame_brim :
    (Brim.options 0xffffffffffffffce).validate = .ok () ∧
    (Brim.options 0xffffffffffffffce).connect.maxBytesPerWrite < 0x10000000000000000 ∧
    Brim.torn.before.connect = (Brim.options 0xffffffffffffffce).connect ∧
    Brim.torn.offers =
      [⟨0, 306, .took 7⟩, ⟨7, 306, .interrupted⟩, ⟨7, 306, .took 60⟩] ∧
    Brim.torn.answer = .panicked ∧ Brim.torn.Chunked := by
  have hrun : Brim.torn.offers =
        [⟨0, 306, .took 7⟩, ⟨7, 306, .interrupted⟩, ⟨7, 306, .took 60⟩] ∧
      Brim.torn.frame.length = 306 := by
    decide +kernel
  have hchunked : Brim.torn.Chunked :=
    chunks_in_frame (Brim.options 0xffffffffffffffce) rfl (by decide) Brim.torn.before rfl
      [.send Brim.torn.auth Brim.torn.report Brim.torn.network] Brim.torn List.mem_cons_self
  refine ⟨rfl, by decide, rfl, hrun.1, hchunked.panicked.mpr ?_, hchunked⟩
  rw [hrun.1, hrun.2]
  exact ⟨⟨7, 306, .took 60⟩, by decide, by decide, by decide⟩

/-- With the greatest limit a frame cannot be written of which one octet was taken. -/
theorem panicked_at_last_limit :
    let e := Brim.exchange 0xffffffffffffffff [.took 1]
    (Brim.options 0xffffffffffffffff).validate = .ok () ∧
    (Brim.options 0xffffffffffffffff).connect.maxBytesPerWrite < 0x10000000000000000 ∧
    e.before = .ofOptions (Brim.options 0xffffffffffffffff) ∧
    e.octets.length = 1 ∧ e.answer = .panicked := by
  have hrun : (Brim.exchange 0xffffffffffffffff [.took 1]).octets.length = 1 ∧
      (Brim.exchange 0xffffffffffffffff [.took 1]).answer = .panicked := by
    decide +kernel
  exact ⟨rfl, by decide, rfl, hrun⟩

end Persistent

end Telemetry
