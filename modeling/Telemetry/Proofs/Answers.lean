import Telemetry.Proofs.Replies

/-!
What a transport with workers makes of any run of sends and closes, with any deeds of the
workers in between and meanwhile. Exchanges and workers have numbers that are never given
out twice; so no two sends take each other's replies, and a worker that was given up is
never used again.
-/

namespace Telemetry

namespace HttpDelivery

/-- What is asked of a transport. -/
inductive Use
  | send (auth : Auth) (report : Report) (around : Surroundings)
  | close

/-- The sends of a run, each with what it finds. -/
def trips (t : HttpDelivery) (w : Workshop) : List Use → List RoundTrip
  | [] => []
  | .send auth report around :: uses =>
    let trip := ⟨t, w, auth, report, around⟩
    trip :: trips trip.next trip.after uses
  | .close :: uses => trips t.close w uses

/-! ## What a run keeps -/

/-- What a transport and the workers that it ever started know of each other: workers and
exchanges have numbers that were given out already. -/
structure Knows (t : HttpDelivery) (w : Workshop) : Prop where
  staff : w.workers.length = t.workersStarted
  held : ∀ number, t.worker = some number → number < t.workersStarted
  below : ∀ number job, w.Holds number job → job.exchange < t.exchanges

/-- A send finds the transport set up as it was, and no fewer exchanges and workers. -/
structure LeadsTo (t : HttpDelivery) (e : RoundTrip) : Prop where
  knows : e.transport.Knows e.workshop
  format : e.transport.format = t.format
  deadline : e.transport.deadline? = t.deadline?
  exchanges : t.exchanges ≤ e.transport.exchanges
  workers : t.workersStarted ≤ e.transport.workersStarted

end HttpDelivery

namespace RoundTrip

variable {e : RoundTrip}

theorem lt_of_worker (hknows : e.transport.Knows e.workshop) {number : Nat}
    (hworker : e.worker? = some number) :
    number < e.transport.workersStarted + e.starts.toNat := by
  obtain ⟨job, hjob⟩ : ∃ job, e.job? = some job := by
    cases hjob : e.job? with
    | some job => exact ⟨job, rfl⟩
    | none =>
      rw [worker?_of_no_job hjob] at hworker
      cases hworker
  have hstarts := starts_of_some hworker
  cases hrunning : e.running with
  | true =>
    rw [worker?_of_running hjob hrunning] at hworker
    exact Nat.lt_add_right _ (hknows.held number hworker)
  | false =>
    cases hspawn : e.around.spawnError with
    | none =>
      rw [worker?_of_new hjob hrunning hspawn] at hworker
      rw [hstarts, hrunning, ← Option.some.inj hworker]
      exact Nat.lt_succ_self _
    | some reason =>
      rw [worker?_of_unspawned hjob hrunning hspawn] at hworker
      cases hworker

theorem knows_next (hknows : e.transport.Knows e.workshop) : e.next.Knows e.after := by
  obtain ⟨worker, hnext, hworker⟩ := next_eq hknows.below
  rw [hnext]
  constructor
  case staff => rw [length_after, hknows.staff, left]
  case held =>
    intro number hheld
    rcases hworker number hheld with hbefore | hused
    · exact Nat.lt_add_right _ (hknows.held number hbefore)
    · exact lt_of_worker hknows hused
  case below =>
    intro number job hholds
    rcases holds_after hholds with hold | hhanded
    · exact Nat.lt_add_right _ (hknows.below number job hold)
    · have hjob := (handed?_of_job hhanded).2
      rw [(of_job hjob).2.1, left, hjob]
      exact Nat.lt_succ_self _

end RoundTrip

namespace HttpDelivery

variable {t : HttpDelivery} {w : Workshop}

theorem knows_new (endpoint : Endpoint) (format : BodyFormat)
    (connectTimeout requestTimeout : Duration) (debug : Bool) :
    ({ endpoint, format, connectTimeout, requestTimeout, debug } : HttpDelivery).Knows {} := by
  constructor
  case staff => rfl
  case held => exact fun _ hnone => (nomatch hnone)
  case below =>
    rintro number job (⟨worker, hworker, _⟩ | ⟨posted, hmessage⟩)
    · cases hworker
    · cases hmessage

theorem knows_close (hknows : t.Knows w) : t.close.Knows w :=
  ⟨hknows.staff, fun _ hnone => (nomatch hnone), hknows.below⟩

theorem leadsTo_of_next {e later : RoundTrip} (hknows : e.transport.Knows e.workshop)
    (hleads : e.next.LeadsTo later) : e.transport.LeadsTo later := by
  obtain ⟨worker, hnext, _⟩ := e.next_eq hknows.below
  rw [hnext] at hleads
  exact ⟨hleads.knows, hleads.format, hleads.deadline,
    Nat.le_trans (Nat.le_add_right _ _) hleads.exchanges,
    Nat.le_trans (Nat.le_add_right _ _) hleads.workers⟩

theorem leadsTo_trips (hknows : t.Knows w) (uses : List Use) :
    ∀ e ∈ t.trips w uses, t.LeadsTo e := by
  induction uses generalizing t w with
  | nil => exact fun _ hmember => (nomatch hmember)
  | cons use uses ih =>
    cases use with
    | close =>
      intro e hmember
      have hleads := ih (knows_close hknows) e hmember
      exact ⟨hleads.knows, hleads.format, hleads.deadline, hleads.exchanges, hleads.workers⟩
    | send auth report around =>
      let trip : RoundTrip := ⟨t, w, auth, report, around⟩
      intro e hmember
      rcases List.mem_cons.mp hmember with rfl | hlater
      · exact ⟨hknows, rfl, rfl, Nat.le_refl _, Nat.le_refl _⟩
      · have hleads := ih (trip.knows_next hknows) e hlater
        exact leadsTo_of_next (e := trip) hknows hleads

theorem pairwise_trips (hknows : t.Knows w) (uses : List Use) :
    (t.trips w uses).Pairwise fun e later => e.next.LeadsTo later := by
  induction uses generalizing t w with
  | nil => exact List.Pairwise.nil
  | cons use uses ih =>
    cases use with
    | close => exact ih (knows_close hknows)
    | send auth report around =>
      let trip : RoundTrip := ⟨t, w, auth, report, around⟩
      have hnext := trip.knows_next hknows
      exact List.Pairwise.cons (leadsTo_trips hnext uses) (ih hnext)

theorem seqId_trips (hknows : t.Knows w) {uses : List Use} {index : Nat} {e : RoundTrip}
    (hindex : (t.trips w uses)[index]? = some e) :
    e.transport.seqId = t.seqId + .ofNat index := by
  induction uses generalizing t w index with
  | nil => cases hindex
  | cons use uses ih =>
    cases use with
    | close => exact ih (knows_close hknows) hindex
    | send auth report around =>
      let trip : RoundTrip := ⟨t, w, auth, report, around⟩
      cases index with
      | zero =>
        obtain rfl := Option.some.inj hindex
        simp
      | succ index =>
        rw [ih (trip.knows_next hknows) hindex, trip.seqId_next hknows.below, UInt32.ofNat_add,
          UInt32.add_comm (.ofNat _), ← UInt32.add_assoc]
        rfl

/-- What is true of every send of a run. Its reply is the first one on the channel of its
exchange when nobody waits any longer. -/
structure Answered (t : HttpDelivery) (trips : List RoundTrip) (index : Nat) (e : RoundTrip) :
    Prop where
  /-- The calls are numbered from one on, in 32 bits, and what is posted is the call. -/
  numbered : e.call.seqId.toNat = (index + 1) % 0x100000000 ∧
    ∀ body, e.sent.posted = some body → t.format.encodeCall e.call = .ok body
  /-- Without an exchange nothing is posted, and the worker is left alone. -/
  unsent : e.job? = none → e.sent.posted = none ∧ e.next.worker = e.transport.worker ∧
    ((∃ error, t.format.encodeCall e.call = .error error ∧
        e.answer = .settled (.failed (.encode error))) ∨
      (∃ body, t.format.encodeCall e.call = .ok body) ∧ t.deadline? = none ∧
        e.answer = .panicked)
  delivered : ∀ response, e.answer = .settled (.delivered response) ↔
    ∃ status body, e.reply? = some (.answered status body) ∧ (200 ≤ status ∧ status ≤ 299) ∧
      t.format.decodeResponse body = .ok response
  undecodable : ∀ status body fault, e.reply? = some (.answered status body) →
    (200 ≤ status ∧ status ≤ 299) → t.format.decodeResponse body = .error fault →
    e.answer = .settled (.failed (.decode fault.message))
  otherStatus : ∀ status body, e.reply? = some (.answered status body) →
    ¬ (200 ≤ status ∧ status ≤ 299) → e.answer = .settled (.failed (.status status))
  /-- The client has failed, or no worker was found, or the one that was gave no reply. -/
  unanswered : e.job?.isSome → (∀ status body, e.reply? ≠ some (.answered status body)) →
    ∃ reason, e.answer = .settled (.failed (.http reason))
  /-- After a failed exchange no worker is held. The next one begins with a worker that has
  had no part in any exchange, if there can be one. -/
  givenUp : ∀ error, e.job?.isSome → e.answer = .settled (.failed error) →
    e.next.worker = none ∧ ∀ auth report around,
      let next : RoundTrip := ⟨e.next, e.after, auth, report, around⟩
      next.job?.isSome → around.spawnError = none → ∃ number, next.worker? = some number ∧
        ∀ place other, place ≤ index → trips[place]? = some other →
          other.worker? ≠ some number
  /-- After an answer the worker that took the job is held, and is used again if it runs. -/
  kept : ∀ response, e.answer = .settled (.delivered response) →
    ∃ number, e.worker? = some number ∧ e.next.worker = some number ∧
      ∀ auth report around,
        let next : RoundTrip := ⟨e.next, e.after, auth, report, around⟩
        next.job?.isSome → next.running → next.worker? = some number
  /-- The reply is one to the job of this very send, by the worker that took it, and came
  while it was waited for. -/
  own : ∀ message, e.message? = some message →
    e.handed? = some (message.worker, message.job) ∧ message ∉ e.workshop.messages
  /-- A reply to the job of this send is never taken by another one. -/
  apart : ∀ place other message, trips[place]? = some other →
    e.job? = some message.job → other.message? = some message → place = index

section

variable {trips : List RoundTrip}
  (hpairwise : trips.Pairwise fun e later => e.next.LeadsTo later)
  (hknows : ∀ e ∈ trips, e.transport.Knows e.workshop)
  {index place : Nat} {e other : RoundTrip}

include hpairwise in
theorem leadsTo_of_lt (hindex : trips[index]? = some e) (hplace : trips[place]? = some other)
    (hless : index < place) : e.next.LeadsTo other := by
  obtain ⟨hbound, rfl⟩ := List.getElem?_eq_some_iff.mp hindex
  obtain ⟨hlater, rfl⟩ := List.getElem?_eq_some_iff.mp hplace
  exact List.pairwise_iff_getElem.mp hpairwise index place hbound hlater hless

include hpairwise hknows in
/-- Exchanges never share a number. -/
theorem ne_of_lt {job : Job} (hindex : trips[index]? = some e)
    (hplace : trips[place]? = some other) (hjob : e.job? = some job) (hless : index < place) :
    e.transport.exchanges ≠ other.transport.exchanges := by
  have hcounted := (leadsTo_of_lt hpairwise hindex hplace hless).exchanges
  rw [e.exchanges_next (hknows e (List.mem_of_getElem? hindex)).below, hjob] at hcounted
  exact Nat.ne_of_lt hcounted

include hpairwise hknows in
theorem eq_of_exchanges {job own : Job} (hindex : trips[index]? = some e)
    (hplace : trips[place]? = some other) (hjob : e.job? = some job)
    (hown : other.job? = some own)
    (hsame : e.transport.exchanges = other.transport.exchanges) : place = index := by
  rcases Nat.lt_trichotomy place index with hbefore | heq | hafter
  · exact absurd hsame.symm (ne_of_lt hpairwise hknows hplace hindex hown hbefore)
  · exact heq
  · exact absurd hsame (ne_of_lt hpairwise hknows hindex hplace hjob hafter)

include hpairwise hknows in
/-- The number of a new worker has not been that of a worker so far. -/
theorem worker_lt_started {number : Nat} (hindex : trips[index]? = some e)
    (hplace : trips[place]? = some other) (hle : place ≤ index)
    (hworker : other.worker? = some number) : number < e.next.workersStarted := by
  have hother := hknows other (List.mem_of_getElem? hplace)
  have hless : number < other.next.workersStarted := by
    rw [other.workersStarted_next hother.below]
    exact other.lt_of_worker hother hworker
  rcases Nat.lt_or_eq_of_le hle with hbefore | rfl
  · have hleads := leadsTo_of_lt hpairwise hplace hindex hbefore
    have hlater : e.transport.workersStarted ≤ e.next.workersStarted := by
      rw [e.workersStarted_next (hknows e (List.mem_of_getElem? hindex)).below]
      exact Nat.le_add_right _ _
    exact Nat.lt_of_lt_of_le hless (Nat.le_trans hleads.workers hlater)
  · cases hplace.symm.trans hindex
    exact hless

end

/-- Whatever is sent and closed, and whatever the workers do and whenever they do it, each
send of a new transport takes its own reply or none. -/
theorem own_replies (endpoint : Endpoint) (format : BodyFormat)
    (connectTimeout requestTimeout : Duration) (debug : Bool) (uses : List Use) :
    let t : HttpDelivery := { endpoint, format, connectTimeout, requestTimeout, debug }
    ∀ index e, (t.trips {} uses)[index]? = some e → Answered t (t.trips {} uses) index e := by
  intro t index e hindex
  have hnew : t.Knows {} := knows_new endpoint format connectTimeout requestTimeout debug
  have hleads := leadsTo_trips hnew uses
  have hpairwise := pairwise_trips hnew uses
  have hall := fun e hmember => (hleads e hmember).knows
  have hmember := List.mem_of_getElem? hindex
  have hknows := hall e hmember
  have hformat := (hleads e hmember).format
  have hdeadline := (hleads e hmember).deadline
  constructor
  case numbered =>
    refine ⟨?_, ?_⟩
    · have hseqId : e.call.seqId = .ofNat (index + 1) := by
        rw [RoundTrip.call, seqId_trips hnew hindex, UInt32.ofNat_add]
        exact congrArg (· + 1) (UInt32.zero_add _)
      rw [hseqId]
      exact UInt32.toNat_ofNat'
    · intro body hposted
      rw [← hformat]
      exact e.encodeCall_of_posted hknows.below hposted
  case unsent =>
    intro hjob
    rw [← hformat, ← hdeadline]
    rcases e.sent_of_no_job hjob with ⟨error, hbody, hsent⟩ | ⟨hbody, hwait, hsent⟩
    · exact ⟨congrArg (·.posted) hsent, congrArg (·.sending.next.worker) hsent,
        Or.inl ⟨error, hbody, congrArg (·.sending.answer) hsent⟩⟩
    · exact ⟨congrArg (·.posted) hsent, congrArg (·.sending.next.worker) hsent,
        Or.inr ⟨hbody, hwait, congrArg (·.sending.answer) hsent⟩⟩
  case delivered =>
    intro response
    rw [← hformat]
    refine ⟨?_, ?_⟩
    · intro hanswer
      obtain ⟨_, reply, _, _, hreply, hdecoded⟩ := e.of_delivered hknows.below hanswer
      obtain ⟨status, body, rfl, hstatus, hbody⟩ := answered_of_decoded hdecoded
      exact ⟨status, body, hreply, hstatus, hbody⟩
    · rintro ⟨status, body, hreply, hstatus, hdecoded⟩
      rw [e.answer_of_reply hknows.below hreply, decodeReply_of_success hstatus, hdecoded]
      rfl
  case undecodable =>
    intro status body fault hreply hstatus hdecoded
    rw [← hformat] at hdecoded
    rw [e.answer_of_reply hknows.below hreply, decodeReply_of_success hstatus, hdecoded]
    rfl
  case otherStatus =>
    intro status body hreply hstatus
    rw [e.answer_of_reply hknows.below hreply, decodeReply_of_other hstatus]
    rfl
  case unanswered =>
    intro hsome hreply
    obtain ⟨job, hjob⟩ := Option.isSome_iff_exists.mp hsome
    exact e.answer_of_unanswered hjob hknows.below hreply
  case givenUp =>
    intro error hsome hanswer
    obtain ⟨job, hjob⟩ := Option.isSome_iff_exists.mp hsome
    have hnext := e.of_failed hjob hknows.below hanswer
    have hnone : e.next.worker = none := congrArg HttpDelivery.worker hnext
    refine ⟨hnone, ?_⟩
    intro auth report around next hready hspawn
    obtain ⟨later, hlater⟩ := Option.isSome_iff_exists.mp hready
    have hrunning : next.running = false := by
      rw [RoundTrip.running, hnone]
      rfl
    refine ⟨_, next.worker?_of_new hlater hrunning hspawn, ?_⟩
    intro place other hle hplace hworker
    exact Nat.lt_irrefl _ (worker_lt_started hpairwise hall hindex hplace hle hworker)
  case kept =>
    intro response hanswer
    obtain ⟨number, _, hworker, hnext, _⟩ := e.of_delivered hknows.below hanswer
    have hheld : e.next.worker = some number := congrArg HttpDelivery.worker hnext
    refine ⟨number, hworker, hheld, ?_⟩
    intro auth report around next hready hrunning
    obtain ⟨later, hlater⟩ := Option.isSome_iff_exists.mp hready
    exact (next.worker?_of_running hlater hrunning).trans hheld
  case own => exact fun message hmessage => e.message?_own hknows.below hmessage
  case apart =>
    intro place other message hplace hjob hmessage
    have hother := (hleads other (List.mem_of_getElem? hplace)).knows
    have hown := (RoundTrip.handed?_of_job (other.message?_own hother.below hmessage).1).2
    have hsame : e.transport.exchanges = other.transport.exchanges :=
      (RoundTrip.of_job hjob).2.1.symm.trans (RoundTrip.of_job hown).2.1
    exact eq_of_exchanges hpairwise hall hindex hplace hjob hown hsame

def Workday.transport : HttpDelivery where
  endpoint := ⟨.plain, "", 80, "/"⟩
  format := Codec.binary.bodyFormat

def Workday.send (around : Surroundings) : Use :=
  .send ⟨""⟩ ⟨⟨"", 0, ""⟩, 1, 2, [], [], []⟩ around

/-- The body of an answer without commands and errors. -/
def Workday.body : List UInt8 :=
  Codec.binary.write Response.schema ⟨[], []⟩

/-- The reply of the first worker comes while the second one is waited for. The fourth
worker is used again and then ends, the fifth one does not take its job, and the seventh
one is given up by the close. -/
def Workday.uses : List Use :=
  [Workday.send { spawnError := some "no threads" },
    Workday.send {},
    Workday.send { waiting := [.reply 0 (.answered 200 Workday.body), .reply 1 (.answered 503 [])] },
    Workday.send { waiting := [.reply 2 (.answered 200 [])] },
    Workday.send { waiting := [.reply 3 (.answered 299 Workday.body)] },
    Workday.send { waiting := [.ending 3] },
    Workday.send { handing := [.ending 4] },
    Workday.send { waiting := [.reply 5 (.failed "reset")] },
    Workday.send { waiting := [.reply 6 (.answered 200 Workday.body)] },
    .close,
    Workday.send { waiting := [.reply 7 (.answered 200 Workday.body)] }]

theorem own_replies_workday :
    let t := Workday.transport
    let trips := t.trips {} Workday.uses
    trips.map (fun e => (e.call.seqId, e.worker?, e.next.worker, e.answer)) =
      [(1, none, none, .settled (.failed (.http "worker spawn failed: no threads"))),
        (2, some 0, none, .settled (.failed (.http "no reply from http worker within 11.5s"))),
        (3, some 1, none, .settled (.failed (.status 503))),
        (4, some 2, none, .settled (.failed
          (.decode "decode failed: io error: unexpected end of file"))),
        (5, some 3, some 3, .settled (.delivered ⟨[], []⟩)),
        (6, some 3, none, .settled (.failed (.http "http worker panicked"))),
        (7, some 4, none, .settled (.failed (.http "http worker exited"))),
        (8, some 5, none, .settled (.failed (.http "reset"))),
        (9, some 6, some 6, .settled (.delivered ⟨[], []⟩)),
        (10, some 7, some 7, .settled (.delivered ⟨[], []⟩))] ∧
    ∃ e, trips[2]? = some e ∧ Answered t trips 2 e :=
  ⟨by decide +kernel, _, rfl,
    own_replies Workday.transport.endpoint Workday.transport.format
      Workday.transport.connectTimeout Workday.transport.requestTimeout Workday.transport.debug
      Workday.uses 2 _ rfl⟩

end HttpDelivery

end Telemetry
