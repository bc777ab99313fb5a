import Telemetry.Delivery.Persistent

/-!
One frame on one connection. Before it, what can be read is read, and the connection
counts as closed exactly if one of these reads meets the end of the stream or an
error. Then the frame is written piece by piece. However the writes fall out, the
connection takes a front part of the frame, and the end of the writing says which:
all of it, or so many octets and no more.
-/

namespace Telemetry

/-- How many octets of how many the error of a write says were taken. -/
def TransportError.progress? : TransportError → Option (Nat × Nat)
  | .write sent total _ | .zeroWrite sent total => some (sent, total)
  | _ => none

theorem TransportError.isConnectionFatal_of_progress? {error : TransportError}
    {progress : Nat × Nat} (hprogress : error.progress? = some progress) :
    error.isConnectionFatal = true := by
  cases error with
  | write sent total reason => rfl
  | zeroWrite sent total => rfl
  | _ => cases hprogress

theorem Unreachable.progress?_error (failure : Unreachable) :
    failure.error.progress? = none := by
  cases failure with
  | connect reason => rfl
  | tls reason => rfl

/-- A read after which a drain reads on. -/
def ReadResult.goesOn : ReadResult → Bool
  | .interrupted | .took (_ + 1) => true
  | .blocked | .took 0 | .failed => false

/-- A read that finds the connection closed. -/
def ReadResult.isEnd : ReadResult → Bool
  | .took 0 | .failed => true
  | .blocked | .interrupted | .took (_ + 1) => false

namespace Persistent

/-! ## Draining -/

/-- One of the first reads, so many at most, finds the connection closed, and those
before it go on. -/
def MeetsEnd (reads : Nat) (results : List ReadResult) : Prop :=
  ∃ passed last rest, results = passed ++ last :: rest ∧ passed.length < reads ∧
    (∀ result ∈ passed, result.goesOn = true) ∧ last.isEnd = true

theorem meetsEnd_cons (reads : Nat) (first : ReadResult) (results : List ReadResult) :
    MeetsEnd (reads + 1) (first :: results) ↔
      first.isEnd = true ∨ first.goesOn = true ∧ MeetsEnd reads results := by
  constructor
  · rintro ⟨passed, last, rest, hresults, hlength, hpassed, hlast⟩
    cases passed with
    | nil =>
      obtain ⟨rfl, _⟩ := List.cons.inj hresults
      exact Or.inl hlast
    | cons head tail =>
      obtain ⟨rfl, htail⟩ := List.cons.inj hresults
      obtain ⟨hhead, hpassed⟩ := List.forall_mem_cons.mp hpassed
      exact Or.inr ⟨hhead, tail, last, rest, htail, Nat.lt_of_succ_lt_succ hlength, hpassed, hlast⟩
  · rintro (hend | ⟨hfirst, passed, last, rest, rfl, hlength, hpassed, hlast⟩)
    · exact ⟨[], first, results, rfl, Nat.zero_lt_succ reads, List.forall_mem_nil _, hend⟩
    · exact ⟨first :: passed, last, rest, rfl, Nat.succ_lt_succ hlength,
        List.forall_mem_cons.mpr ⟨hfirst, hpassed⟩, hlast⟩

/-- A drain tells that a connection is closed exactly if it has met its end. -/
theorem drain_eq_false_iff (reads : Nat) (results : List ReadResult) :
    drain reads results = false ↔ MeetsEnd reads results := by
  induction reads generalizing results with
  | zero =>
    constructor
    · intro hdrain
      cases hdrain
    · rintro ⟨passed, last, rest, _, hlength, _⟩
      exact absurd hlength (Nat.not_lt_zero _)
  | succ reads ih =>
    cases results with
    | nil =>
      constructor
      · intro hdrain
        cases hdrain
      · rintro ⟨passed, last, rest, hresults, _⟩
        exact absurd hresults.symm (by simp)
    | cons first results =>
      rw [meetsEnd_cons, ← ih]
      rcases first with (_ | count) | _ | _ | _
      · simp [drain, ReadResult.isEnd]
      · simp [drain, ReadResult.isEnd, ReadResult.goesOn]
      · simp [drain, ReadResult.isEnd, ReadResult.goesOn]
      · simp [drain, ReadResult.isEnd, ReadResult.goesOn]
      · simp [drain, ReadResult.isEnd]

/-- The drain before a send leaves the held connection closed: a read met its end, or
the mode of its reads could not be set. -/
def Ends (conduct : Conduct) : Prop :=
  conduct.unblocks = false ∨ MeetsEnd maxDrainReads conduct.reads ∨ conduct.blocks = false

theorem staysOpen_eq_false_iff (conduct : Conduct) :
    staysOpen conduct = false ↔ Ends conduct := by
  unfold staysOpen Ends
  rw [Bool.and_eq_false_iff, Bool.and_eq_false_iff, drain_eq_false_iff, or_assoc]

/-! ## Writing -/

/-- The writing tells what became of `rest`, of which `sent` octets of the same frame
went before. -/
def Writing.Tells (writing : Writing) (c : Chunking) (sent : Nat) (rest : List UInt8) : Prop :=
  (writing.ending = .complete ∧ writing.chunks.flatten = rest) ∨
  ∃ error, writing.ending = .failed error ∧
    writing.chunks.flatten <+: rest ∧ writing.chunks.flatten ≠ rest ∧
    error.progress? = some (sent + writing.chunks.flatten.length, c.total)

theorem Writing.Tells.complete (c : Chunking) (sent : Nat) :
    (⟨[], .complete, []⟩ : Writing).Tells c sent [] :=
  Or.inl ⟨rfl, rfl⟩

/-- A write that took nothing and ends the writing. -/
theorem Writing.Tells.stopped (c : Chunking) (sent : Nat) {rest : List UInt8}
    {chunks : List (List UInt8)} {error : TransportError} (hnothing : chunks.flatten = [])
    (hrest : rest ≠ []) (hprogress : error.progress? = some (sent, c.total)) :
    (⟨chunks, .failed error, []⟩ : Writing).Tells c sent rest := by
  refine Or.inr ⟨error, rfl, ?_, ?_, ?_⟩
  · rw [hnothing]
    exact List.nil_prefix
  · rw [hnothing]
    exact hrest.symm
  · rw [hnothing]
    exact hprogress

theorem Writing.Tells.after {c : Chunking} {sent : Nat} {chunk rest : List UInt8}
    {later : Writing} (remarks : List Diagnostic)
    (hlater : later.Tells c (sent + chunk.length) rest) :
    (Writing.after chunk remarks later).Tells c sent (chunk ++ rest) := by
  have hflatten : (Writing.after chunk remarks later).chunks.flatten =
      chunk ++ later.chunks.flatten := List.flatten_cons
  rcases hlater with ⟨hcomplete, hall⟩ | ⟨error, hfailed, hfront, hpart, hprogress⟩
  · exact Or.inl ⟨hcomplete, by rw [hflatten, hall]⟩
  · refine Or.inr ⟨error, hfailed, ?_, ?_, ?_⟩
    · rw [hflatten]
      exact (List.prefix_append_right_inj chunk).mpr hfront
    · rw [hflatten]
      exact fun hsame => hpart (List.append_cancel_left hsame)
    · rw [hflatten, List.length_append, ← Nat.add_assoc]
      exact hprogress

theorem not_overflows {c : Chunking} {sent : Nat} {rest : List UInt8}
    (hroom : sent + rest.length + c.maxChunk < 0x10000000000000000) :
    c.overflows sent = false := by
  unfold Chunking.overflows
  simp only [decide_eq_false_iff_not]
  omega

theorem writeFreely_tells (c : Chunking) (sent : Nat) (rest : List UInt8)
    (hroom : sent + rest.length + c.maxChunk < 0x10000000000000000) :
    (writeFreely c sent rest).Tells c sent rest := by
  fun_induction writeFreely c sent rest with
  | case1 sent rest hnone =>
    rw [List.eq_nil_of_length_eq_zero hnone]
    exact Writing.Tells.complete c sent
  | case2 sent rest _ hoverflow =>
    rw [not_overflows hroom] at hoverflow
    cases hoverflow
  | case3 sent rest hsome _ hchunk =>
    exact Writing.Tells.stopped c sent rfl (by simpa using hsome) rfl
  | case4 sent rest hsome _ hchunk chunk later ih =>
    have hlater := ih (by simp only [later, chunk, List.length_take, List.length_drop]; omega)
    have hsplit : chunk ++ rest.drop c.maxChunk = rest := List.take_append_drop _ rest
    have hwhole := hlater.after (c.remark chunk.length later)
    rwa [hsplit] at hwhole

theorem writeRest_tells (c : Chunking) (sent : Nat) (rest : List UInt8)
    (results : List WriteResult)
    (hroom : sent + rest.length + c.maxChunk < 0x10000000000000000) :
    (writeRest c sent rest results).Tells c sent rest := by
  fun_induction writeRest c sent rest results with
  | case1 sent rest => exact writeFreely_tells c sent rest hroom
  | case2 sent rest result results hnone =>
    rw [List.eq_nil_of_length_eq_zero hnone]
    exact Writing.Tells.complete c sent
  | case3 sent rest result results _ hoverflow =>
    rw [not_overflows hroom] at hoverflow
    cases hoverflow
  | case4 sent rest results _ _ ih => exact ih hroom
  | case5 sent rest results hsome _ reason =>
    exact Writing.Tells.stopped c sent rfl (by simpa using hsome) rfl
  | case6 sent rest results hsome _ most chunk hchunk =>
    exact Writing.Tells.stopped c sent rfl (by simpa using hsome) rfl
  | case7 sent rest results hsome _ most chunk hchunk later ih =>
    -- What is offered and what of it is taken are both front parts of what is left.
    have hfront : chunk <+: rest := (List.take_prefix most _).trans (List.take_prefix _ rest)
    have hle : chunk.length ≤ rest.length := hfront.length_le
    have hlater := ih (by simp only [later, List.length_drop]; omega)
    have hwhole := hlater.after (c.remark chunk.length later)
    rwa [List.prefix_iff_eq_append.mp hfront] at hwhole

/-- A whole frame that the connection has flushed, or a front part of it and an error
that counts its octets. After a flush that failed the part may be the whole. -/
theorem writeAll_cases (c : Chunking) (frame : List UInt8) (conduct : Conduct)
    (htotal : c.total = frame.length)
    (hroom : frame.length + c.maxChunk < 0x10000000000000000) :
    let writing := writeAll c frame conduct
    (writing.ending = .complete ∧ writing.chunks.flatten = frame ∧ conduct.flushError = none) ∨
    ∃ error, writing.ending = .failed error ∧ writing.chunks.flatten <+: frame ∧
      (writing.chunks.flatten = frame → conduct.flushError ≠ none) ∧
      error.progress? = some (writing.chunks.flatten.length, frame.length) := by
  have htells := writeRest_tells c 0 frame conduct.writes (by omega)
  unfold writeAll
  dsimp only
  rcases htells with ⟨hcomplete, hall⟩ | ⟨error, hfailed, hfront, hpart, hprogress⟩
  · rw [hcomplete]
    cases hflush : conduct.flushError with
    | none => exact Or.inl ⟨hcomplete, hall, rfl⟩
    | some reason =>
      dsimp only
      rw [hall]
      exact Or.inr ⟨_, rfl, List.prefix_refl frame, fun _ => Option.some_ne_none reason,
        by rw [← htotal]; rfl⟩
  · rw [hfailed]
    rw [Nat.zero_add, htotal] at hprogress
    exact Or.inr ⟨error, hfailed, hfront, fun hall => absurd hall hpart, hprogress⟩

end Persistent

end Telemetry
