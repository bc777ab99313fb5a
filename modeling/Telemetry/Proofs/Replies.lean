import Telemetry.Proofs.Workers

/-!
One send of a transport whose workers do what they do. The workers of earlier exchanges
may still be at work, and their replies may come before the send, meanwhile or never. A
reply is taken only if it is one to the job of this send, and the answer is what that
reply comes to.
-/

namespace Telemetry

/-- What happens around one send: the deeds until the transport looks whether its worker
runs, whether a new one starts, the deeds until the job is handed over, and those until
nobody waits any longer. -/
structure Surroundings where
  before : List Deed := []
  spawnError : Option String := none
  handing : List Deed := []
  waiting : List Deed := []

/-- A send with what it finds. -/
structure RoundTrip where
  transport : HttpDelivery
  workshop : Workshop
  auth : Auth
  report : Report
  around : Surroundings

namespace RoundTrip

def call (e : RoundTrip) : Call :=
  ⟨reportMethod, e.transport.seqId + 1, e.auth, e.report⟩

/-- The job of the exchange, if the call has a form and there is a time to wait for. -/
def job? (e : RoundTrip) : Option Job :=
  match e.transport.format.encodeCall e.call, e.transport.deadline? with
  | .ok body, some _ => some ⟨e.transport.exchanges, body⟩
  | _, _ => none

/-! ## The workers meanwhile -/

def met (e : RoundTrip) : Workshop :=
  e.workshop.acts e.around.before

/-- Whether the worker that is held still runs. -/
def running (e : RoundTrip) : Bool :=
  e.transport.worker.any e.met.runs

/-- The worker for the job: the one that is held or else a new one. -/
def worker? (e : RoundTrip) : Option Nat :=
  if e.job?.isNone then none
  else if e.running then e.transport.worker
  else if e.around.spawnError.isSome then none
  else some e.transport.workersStarted

def starts (e : RoundTrip) : Bool :=
  e.worker?.isSome && !e.running

def staffed (e : RoundTrip) : Workshop :=
  (if e.starts then e.met.start else e.met).acts e.around.handing

/-- The job and the worker that takes it. -/
def handed? (e : RoundTrip) : Option (Nat × Job) :=
  match e.worker?, e.job? with
  | some number, some job => if e.staffed.runs number then some (number, job) else none
  | _, _ => none

def after (e : RoundTrip) : Workshop :=
  (match e.handed? with
    | some (number, job) => e.staffed.hand number job
    | none => e.staffed).acts e.around.waiting

/-- The first reply on the channel of the exchange. -/
def message? (e : RoundTrip) : Option Message :=
  e.job?.bind fun job => e.after.messages.find? (·.job.exchange = job.exchange)

def reply? (e : RoundTrip) : Option Posted :=
  e.message?.map (·.posted)

/-! ## The send -/

/-- What the transport sees of it. -/
def conduct (e : RoundTrip) : WorkerConduct where
  running := e.running
  spawnError := e.around.spawnError
  takesJob := e.handed?.isSome
  replies := e.after.messages.map fun message => (message.job.exchange, message.posted)
  gone := !e.after.isPending e.transport.exchanges

def sent (e : RoundTrip) : HttpDelivery.Sent :=
  e.transport.send e.auth e.report e.conduct

def answer (e : RoundTrip) : Answer :=
  e.sent.sending.answer

def next (e : RoundTrip) : HttpDelivery :=
  e.sent.sending.next

/-- The transport with the send, its exchange and a new worker counted. -/
def left (e : RoundTrip) (worker : Option Nat) : HttpDelivery :=
  { e.transport with
    seqId := e.transport.seqId + 1
    exchanges := e.transport.exchanges + e.job?.isSome.toNat
    workersStarted := e.transport.workersStarted + e.starts.toNat
    worker }

end RoundTrip

namespace HttpDelivery

variable {t : HttpDelivery} {conduct : WorkerConduct}

theorem withWorker_held (hrunning : (t.worker.isSome && conduct.running) = true) :
    t.withWorker conduct = .ok t :=
  if_pos hrunning

theorem withWorker_new (hrunning : (t.worker.isSome && conduct.running) = false)
    (hspawn : conduct.spawnError = none) :
    t.withWorker conduct =
      .ok { t with worker := some t.workersStarted, workersStarted := t.workersStarted + 1 } := by
  unfold withWorker
  rw [hrunning, hspawn]
  rfl

theorem withWorker_none (hrunning : (t.worker.isSome && conduct.running) = false)
    {reason : String} (hspawn : conduct.spawnError = some reason) :
    t.withWorker conduct = .error (.http ("worker spawn failed: " ++ reason)) := by
  unfold withWorker
  rw [hrunning, hspawn]
  rfl

/-! ## The ways in which a send ends -/

section

variable {auth : Auth} {report : Report} {body : List UInt8} {wait : Duration}
  {next : HttpDelivery} {taken : Bool}

theorem send_of_refused {error : CodecError}
    (hbody : t.format.encodeCall ⟨reportMethod, t.seqId + 1, auth, report⟩ = .error error) :
    t.send auth report conduct =
      ⟨⟨[], .settled (.failed (.encode error)), { t with seqId := t.seqId + 1 }⟩, none⟩ := by
  unfold send
  dsimp only
  rw [hbody]

theorem send_of_no_deadline
    (hbody : t.format.encodeCall ⟨reportMethod, t.seqId + 1, auth, report⟩ = .ok body)
    (hwait : t.deadline? = none) :
    t.send auth report conduct =
      ⟨⟨[], .panicked, { t with seqId := t.seqId + 1 }⟩, none⟩ := by
  have hlater : { t with seqId := t.seqId + 1 }.deadline? = none := hwait
  unfold send
  dsimp only
  rw [hbody, hlater]

theorem send_of_delivered {response : Response}
    (hbody : t.format.encodeCall ⟨reportMethod, t.seqId + 1, auth, report⟩ = .ok body)
    (hwait : t.deadline? = some wait)
    (hexchange : { t with seqId := t.seqId + 1 }.exchange wait conduct =
      ⟨.ok response, next, taken⟩) :
    ∃ remarks, t.send auth report conduct =
      ⟨⟨remarks, .settled (.delivered response), next⟩, if taken then some body else none⟩ := by
  have hlater : { t with seqId := t.seqId + 1 }.deadline? = some wait := hwait
  unfold send
  dsimp only
  rw [hbody, hlater]
  dsimp only
  rw [hexchange]
  exact ⟨_, rfl⟩

theorem send_of_failed {error : TransportError}
    (hbody : t.format.encodeCall ⟨reportMethod, t.seqId + 1, auth, report⟩ = .ok body)
    (hwait : t.deadline? = some wait)
    (hexchange : { t with seqId := t.seqId + 1 }.exchange wait conduct =
      ⟨.error error, next, taken⟩) :
    ∃ remarks, t.send auth report conduct =
      ⟨⟨remarks, .settled (.failed error), next.close⟩, if taken then some body else none⟩ := by
  have hlater : { t with seqId := t.seqId + 1 }.deadline? = some wait := hwait
  unfold send
  dsimp only
  rw [hbody, hlater]
  dsimp only
  rw [hexchange]
  exact ⟨_, rfl⟩

end

/-! ## What a reply comes to -/

theorem awaitReply_cases (t : HttpDelivery) (exchange : Nat) (wait : Duration)
    (conduct : WorkerConduct) :
    (∃ posted, awaited exchange conduct.replies = some posted ∧
      t.awaitReply exchange wait conduct = t.decodeReply posted) ∨
    awaited exchange conduct.replies = none ∧
      ∃ reason, t.awaitReply exchange wait conduct = .error (.http reason) := by
  unfold awaitReply
  cases awaited exchange conduct.replies with
  | some posted => exact Or.inl ⟨posted, rfl, rfl⟩
  | none =>
    refine Or.inr ⟨rfl, ?_⟩
    dsimp only
    split
    · exact ⟨_, rfl⟩
    · exact ⟨_, rfl⟩

theorem isSuccess_iff (status : Nat) : isSuccess status = true ↔ 200 ≤ status ∧ status ≤ 299 := by
  simp [isSuccess]

theorem decodeReply_of_success {status : Nat} (hstatus : 200 ≤ status ∧ status ≤ 299)
    (body : List UInt8) :
    t.decodeReply (.answered status body) =
      match t.format.decodeResponse body with
      | .ok response => .ok response
      | .error fault => .error (.decode fault.message) :=
  if_pos ((isSuccess_iff status).mpr hstatus)

theorem decodeReply_of_other {status : Nat} (hstatus : ¬ (200 ≤ status ∧ status ≤ 299))
    (body : List UInt8) : t.decodeReply (.answered status body) = .error (.status status) :=
  if_neg (mt (isSuccess_iff status).mp hstatus)

theorem answered_of_decoded {posted : Posted} {response : Response}
    (hdecoded : t.decodeReply posted = .ok response) :
    ∃ status body, posted = .answered status body ∧ (200 ≤ status ∧ status ≤ 299) ∧
      t.format.decodeResponse body = .ok response := by
  cases posted with
  | failed reason => cases hdecoded
  | answered status body =>
    by_cases hstatus : 200 ≤ status ∧ status ≤ 299
    · refine ⟨status, body, rfl, hstatus, ?_⟩
      rw [decodeReply_of_success hstatus] at hdecoded
      cases hbody : t.format.decodeResponse body with
      | ok decoded =>
        rw [hbody] at hdecoded
        cases hdecoded
        rfl
      | error fault =>
        rw [hbody] at hdecoded
        cases hdecoded
    · rw [decodeReply_of_other hstatus] at hdecoded
      cases hdecoded

end HttpDelivery

namespace RoundTrip

variable {e : RoundTrip} {job : Job}

theorem of_job (hjob : e.job? = some job) :
    e.transport.format.encodeCall e.call = .ok job.body ∧ job.exchange = e.transport.exchanges ∧
      ∃ wait, e.transport.deadline? = some wait := by
  unfold job? at hjob
  split at hjob
  next body wait hbody hwait =>
    cases hjob
    exact ⟨hbody, rfl, wait, hwait⟩
  next => cases hjob

/-! ## The worker of an exchange -/

theorem worker?_of_no_job (hjob : e.job? = none) : e.worker? = none := by
  unfold worker?
  rw [hjob]
  rfl

theorem worker?_of_running (hjob : e.job? = some job) (hrunning : e.running = true) :
    e.worker? = e.transport.worker := by
  unfold worker?
  rw [hjob, hrunning]
  rfl

theorem worker?_of_new (hjob : e.job? = some job) (hrunning : e.running = false)
    (hspawn : e.around.spawnError = none) : e.worker? = some e.transport.workersStarted := by
  unfold worker?
  rw [hjob, hrunning, hspawn]
  rfl

theorem worker?_of_unspawned (hjob : e.job? = some job) (hrunning : e.running = false)
    {reason : String} (hspawn : e.around.spawnError = some reason) : e.worker? = none := by
  unfold worker?
  rw [hjob, hrunning, hspawn]
  rfl

theorem starts_of_none (hworker : e.worker? = none) : e.starts = false := by
  rw [starts, hworker]
  rfl

theorem starts_of_some {number : Nat} (hworker : e.worker? = some number) :
    e.starts = !e.running := by
  rw [starts, hworker, Option.isSome_some, Bool.true_and]

theorem left_of_no_job (hjob : e.job? = none) (worker : Option Nat) :
    e.left worker = { e.transport with seqId := e.transport.seqId + 1, worker } := by
  unfold left
  rw [hjob, starts_of_none (worker?_of_no_job hjob)]
  rfl

theorem isSome_of_running (hrunning : e.running = true) :
    (e.transport.worker.isSome && e.conduct.running) = true := by
  have hworker : e.transport.worker.any e.met.runs = true := hrunning
  obtain ⟨_, hheld, _⟩ := (Option.any_eq_true _ _).mp hworker
  rw [hheld]
  exact hrunning

theorem not_running (hrunning : e.running = false) (held : Bool) :
    (held && e.conduct.running) = false := by
  rw [show e.conduct.running = false from hrunning, Bool.and_false]

/-! ## One exchange -/

/-- A call that has no form fails, and one that there is no time to wait for is a panic.
The workers are not asked. -/
theorem sent_of_no_job (hjob : e.job? = none) :
    (∃ error, e.transport.format.encodeCall e.call = .error error ∧
      e.sent = ⟨⟨[], .settled (.failed (.encode error)), e.left e.transport.worker⟩, none⟩) ∨
    (∃ body, e.transport.format.encodeCall e.call = .ok body) ∧
      e.transport.deadline? = none ∧
      e.sent = ⟨⟨[], .panicked, e.left e.transport.worker⟩, none⟩ := by
  rw [left_of_no_job hjob]
  cases hbody : e.transport.format.encodeCall e.call with
  | error error => exact Or.inl ⟨error, rfl, HttpDelivery.send_of_refused hbody⟩
  | ok body =>
    have hwait : e.transport.deadline? = none := by
      unfold job? at hjob
      rw [hbody] at hjob
      cases hwait : e.transport.deadline? with
      | none => rfl
      | some wait =>
        rw [hwait] at hjob
        cases hjob
    exact Or.inr ⟨⟨body, rfl⟩, hwait, HttpDelivery.send_of_no_deadline hbody hwait⟩

/-- The transport when a worker for the job has been found or started. -/
theorem withWorker_eq {number : Nat} (hjob : e.job? = some job)
    (hworker : e.worker? = some number) :
    { e.transport with
      seqId := e.transport.seqId + 1
      exchanges := e.transport.exchanges + 1 }.withWorker e.conduct =
        .ok (e.left (some number)) := by
  have hstarts := starts_of_some hworker
  unfold left
  rw [hjob, hstarts, ← hworker]
  cases hrunning : e.running with
  | true =>
    rw [worker?_of_running hjob hrunning]
    exact HttpDelivery.withWorker_held (isSome_of_running hrunning)
  | false =>
    cases hspawn : e.around.spawnError with
    | none =>
      rw [worker?_of_new hjob hrunning hspawn]
      exact HttpDelivery.withWorker_new (not_running hrunning _) hspawn
    | some reason =>
      rw [worker?_of_unspawned hjob hrunning hspawn] at hworker
      cases hworker

/-! ## The replies that are there -/

/-- A job that a worker has had in the end is an earlier one or the one of this send. -/
theorem holds_after {number : Nat} {held : Job} (hholds : e.after.Holds number held) :
    e.workshop.Holds number held ∨ e.handed? = some (number, held) := by
  have hstaffed : e.staffed.Holds number held → e.workshop.Holds number held := by
    intro hstaffed
    have hbefore := Workshop.holds_of_acts hstaffed
    split at hbefore
    · exact Workshop.holds_of_acts (Workshop.holds_of_start hbefore)
    · exact Workshop.holds_of_acts hbefore
  have hqueued := Workshop.holds_of_acts hholds
  cases hhanded : e.handed? with
  | none =>
    rw [hhanded] at hqueued
    exact Or.inl (hstaffed hqueued)
  | some handed =>
    rw [hhanded] at hqueued
    rcases Workshop.holds_of_hand hqueued with hold | ⟨rfl, rfl⟩
    · exact Or.inl (hstaffed hold)
    · exact Or.inr rfl

/-- All jobs that were ever handed out are those of earlier exchanges. -/
def Below (e : RoundTrip) : Prop :=
  ∀ number job, e.workshop.Holds number job → job.exchange < e.transport.exchanges

/-- A reply that is taken is one to the job of this very send, by the worker that took the
job, and it was not there before. -/
theorem message?_own (hbelow : e.Below) {message : Message}
    (hmessage : e.message? = some message) :
    e.handed? = some (message.worker, message.job) ∧ message ∉ e.workshop.messages := by
  obtain ⟨job, hjob, hfound⟩ := Option.bind_eq_some_iff.mp hmessage
  have hchannel := List.find?_some hfound
  have hexchange : message.job.exchange = e.transport.exchanges :=
    (of_decide_eq_true hchannel).trans (of_job hjob).2.1
  have hnew : ¬ e.workshop.Holds message.worker message.job := by
    intro hholds
    have hless := hbelow _ _ hholds
    omega
  have hheld : e.after.Holds message.worker message.job :=
    Or.inr ⟨message.posted, List.mem_of_find?_eq_some hfound⟩
  rcases holds_after hheld with hold | hhanded
  · exact absurd hold hnew
  · exact ⟨hhanded, fun hmember => hnew (Or.inr ⟨message.posted, hmember⟩)⟩

theorem awaited_eq (hjob : e.job? = some job) :
    HttpDelivery.awaited e.transport.exchanges e.conduct.replies = e.reply? := by
  unfold reply? message? HttpDelivery.awaited conduct
  rw [hjob, List.find?_map, Option.map_map, Option.bind_some, (of_job hjob).2.1]
  rfl

theorem handed?_of_job {handed : Nat × Job} (hhanded : e.handed? = some handed) :
    e.worker? = some handed.1 ∧ e.job? = some handed.2 := by
  unfold handed? at hhanded
  split at hhanded
  next number job hworker hjob =>
    split at hhanded
    · cases hhanded
      exact ⟨hworker, hjob⟩
    · cases hhanded
  next => cases hhanded

theorem reply?_of_unhanded (hbelow : e.Below) (hhanded : e.handed? = none) :
    e.reply? = none := by
  unfold reply?
  cases hmessage : e.message? with
  | none => rfl
  | some message =>
    rw [(message?_own hbelow hmessage).1] at hhanded
    cases hhanded

theorem handed?_of_no_worker (hworker : e.worker? = none) : e.handed? = none := by
  unfold handed?
  rw [hworker]

/-- An exchange without a reply ends in an error, whether the job came to a worker or not.
With a reply it comes to what that decodes to. -/
theorem exchange_cases (hjob : e.job? = some job) (hbelow : e.Below) (wait : Duration) :
    let t := { e.transport with seqId := e.transport.seqId + 1 }
    ∃ result next, t.exchange wait e.conduct = ⟨result, next, e.handed?.isSome⟩ ∧
      next.close = e.left none ∧
      ((∃ number reply, e.worker? = some number ∧ next = e.left (some number) ∧
        e.reply? = some reply ∧ result = e.transport.decodeReply reply) ∨
      e.reply? = none ∧ ∃ reason, result = .error (.http reason)) := by
  intro t
  cases hworker : e.worker? with
  | some number =>
    have hwith := withWorker_eq hjob hworker
    have hexchange : t.exchange wait e.conduct =
        if e.handed?.isSome then
          ⟨t.awaitReply t.exchanges wait e.conduct, e.left (some number), true⟩
        else ⟨.error (.http "http worker exited"), e.left (some number), false⟩ := by
      unfold HttpDelivery.exchange
      simp only [t, hwith]
      rfl
    cases hhanded : e.handed? with
    | none =>
      rw [hhanded] at hexchange
      exact ⟨_, _, hexchange, rfl, Or.inr ⟨reply?_of_unhanded hbelow hhanded, _, rfl⟩⟩
    | some handed =>
      rw [hhanded] at hexchange
      have hawaited : HttpDelivery.awaited t.exchanges e.conduct.replies = e.reply? :=
        awaited_eq hjob
      rcases t.awaitReply_cases t.exchanges wait e.conduct with
        ⟨reply, hreply, hresult⟩ | ⟨hnone, reason, hresult⟩
      · rw [hawaited] at hreply
        exact ⟨_, _, hexchange, rfl, Or.inl ⟨number, reply, rfl, rfl, hreply, hresult⟩⟩
      · rw [hawaited] at hnone
        exact ⟨_, _, hexchange, rfl, Or.inr ⟨hnone, reason, hresult⟩⟩
  | none =>
    have hhanded := handed?_of_no_worker hworker
    have hreply := reply?_of_unhanded hbelow hhanded
    have hrunning : e.running = false := by
      cases hrunning : e.running with
      | false => rfl
      | true =>
        rw [worker?_of_running hjob hrunning] at hworker
        have hheld := isSome_of_running hrunning
        rw [hworker] at hheld
        cases hheld
    cases hspawn : e.around.spawnError with
    | none =>
      rw [worker?_of_new hjob hrunning hspawn] at hworker
      cases hworker
    | some reason =>
      have hwith := HttpDelivery.withWorker_none
        (t := { t with exchanges := t.exchanges + 1 }) (not_running hrunning _) hspawn
      refine ⟨.error (.http ("worker spawn failed: " ++ reason)),
        { t with exchanges := t.exchanges + 1 }, ?_, ?_, Or.inr ⟨hreply, _, rfl⟩⟩
      · rw [hhanded]
        unfold HttpDelivery.exchange
        simp only [hwith]
        rfl
      · unfold left
        rw [hjob, starts_of_none hworker]
        rfl

/-- How a send ends that has a job. A reply that could be decoded is the answer, and the
worker is kept. Otherwise there is an error, and no worker is held. -/
theorem sent_of_job (hjob : e.job? = some job) (hbelow : e.Below) :
    let posted := if e.handed?.isSome then some job.body else none
    (∃ remarks response number reply,
      e.sent = ⟨⟨remarks, .settled (.delivered response), e.left (some number)⟩, posted⟩ ∧
      e.worker? = some number ∧ e.reply? = some reply ∧
      e.transport.decodeReply reply = .ok response) ∨
    ∃ remarks error, e.sent = ⟨⟨remarks, .settled (.failed error), e.left none⟩, posted⟩ ∧
      ((∃ reply, e.reply? = some reply ∧ e.transport.decodeReply reply = .error error) ∨
        e.reply? = none ∧ ∃ reason, error = .http reason) := by
  intro posted
  obtain ⟨hbody, _, wait, hwait⟩ := of_job hjob
  obtain ⟨result, next, hexchange, hclosed, hreplied⟩ := exchange_cases hjob hbelow wait
  cases result with
  | ok response =>
    obtain ⟨remarks, hsent⟩ := HttpDelivery.send_of_delivered hbody hwait hexchange
    rcases hreplied with ⟨number, reply, hworker, rfl, hreply, hdecoded⟩ | ⟨_, _, herror⟩
    · exact Or.inl ⟨remarks, response, number, reply, hsent, hworker, hreply, hdecoded.symm⟩
    · cases herror
  | error error =>
    obtain ⟨remarks, hsent⟩ := HttpDelivery.send_of_failed hbody hwait hexchange
    rw [hclosed] at hsent
    refine Or.inr ⟨remarks, error, hsent, ?_⟩
    rcases hreplied with ⟨_, reply, _, _, hreply, hdecoded⟩ | ⟨hnone, reason, herror⟩
    · exact Or.inl ⟨reply, hreply, hdecoded.symm⟩
    · cases herror
      exact Or.inr ⟨hnone, reason, rfl⟩

/-- The answer that the result of an exchange makes. -/
def settled (result : Except TransportError Response) : Answer :=
  match result with
  | .ok response => .settled (.delivered response)
  | .error error => .settled (.failed error)

theorem answer_of_reply (hbelow : e.Below) {reply : Posted} (hreply : e.reply? = some reply) :
    e.answer = settled (e.transport.decodeReply reply) := by
  obtain ⟨message, hmessage, _⟩ := Option.map_eq_some_iff.mp hreply
  obtain ⟨job, hjob, _⟩ := Option.bind_eq_some_iff.mp hmessage
  rcases sent_of_job hjob hbelow with
    ⟨_, response, _, own, hsent, _, hown, hdecoded⟩ | ⟨_, error, hsent, hreplied⟩
  · cases hown.symm.trans hreply
    rw [hdecoded]
    exact congrArg (·.sending.answer) hsent
  · rcases hreplied with ⟨own, hown, hdecoded⟩ | ⟨hnone, _⟩
    · cases hown.symm.trans hreply
      rw [hdecoded]
      exact congrArg (·.sending.answer) hsent
    · rw [hnone] at hreply
      cases hreply

theorem encodeCall_of_posted (hbelow : e.Below) {body : List UInt8}
    (hposted : e.sent.posted = some body) :
    e.transport.format.encodeCall e.call = .ok body := by
  cases hjob : e.job? with
  | none =>
    rcases sent_of_no_job hjob with ⟨_, _, hsent⟩ | ⟨_, _, hsent⟩
    · rw [hsent] at hposted
      cases hposted
    · rw [hsent] at hposted
      cases hposted
  | some job =>
    have htaken : (if e.handed?.isSome then some job.body else none) = some body := by
      rcases sent_of_job hjob hbelow with ⟨_, _, _, _, hsent, _⟩ | ⟨_, _, hsent, _⟩
      · rw [← hposted, hsent]
      · rw [← hposted, hsent]
    split at htaken
    · cases htaken
      exact (of_job hjob).1
    · cases htaken

theorem of_delivered (hbelow : e.Below) {response : Response}
    (hanswer : e.answer = .settled (.delivered response)) :
    ∃ number reply, e.worker? = some number ∧ e.next = e.left (some number) ∧
      e.reply? = some reply ∧ e.transport.decodeReply reply = .ok response := by
  unfold answer at hanswer
  cases hjob : e.job? with
  | none =>
    rcases sent_of_no_job hjob with ⟨_, _, hsent⟩ | ⟨_, _, hsent⟩
    · rw [hsent] at hanswer
      cases hanswer
    · rw [hsent] at hanswer
      cases hanswer
  | some job =>
    rcases sent_of_job hjob hbelow with
      ⟨_, own, number, reply, hsent, hworker, hreply, hdecoded⟩ | ⟨_, _, hsent, _⟩
    · rw [hsent] at hanswer
      cases hanswer
      exact ⟨number, reply, hworker, congrArg (·.sending.next) hsent, hreply, hdecoded⟩
    · rw [hsent] at hanswer
      cases hanswer

/-- An exchange that failed has left no worker. -/
theorem of_failed (hjob : e.job? = some job) (hbelow : e.Below) {error : TransportError}
    (hanswer : e.answer = .settled (.failed error)) : e.next = e.left none := by
  unfold answer at hanswer
  rcases sent_of_job hjob hbelow with ⟨_, _, _, _, hsent, _⟩ | ⟨_, _, hsent, _⟩
  · rw [hsent] at hanswer
    cases hanswer
  · exact congrArg (·.sending.next) hsent

theorem answer_of_unanswered (hjob : e.job? = some job) (hbelow : e.Below)
    (hreply : ∀ status body, e.reply? ≠ some (.answered status body)) :
    ∃ reason, e.answer = .settled (.failed (.http reason)) := by
  rcases sent_of_job hjob hbelow with
    ⟨_, _, _, _, _, _, hsome, hdecoded⟩ | ⟨_, error, hsent, ⟨reply, hsome, hdecoded⟩ | ⟨_, hreason⟩⟩
  · obtain ⟨status, body, rfl, _⟩ := HttpDelivery.answered_of_decoded hdecoded
    exact absurd hsome (hreply status body)
  · cases reply with
    | answered status body => exact absurd hsome (hreply status body)
    | failed reason =>
      cases hdecoded
      exact ⟨reason, congrArg (·.sending.answer) hsent⟩
  · obtain ⟨reason, rfl⟩ := hreason
    exact ⟨reason, congrArg (·.sending.answer) hsent⟩

/-- A send counts itself, its exchange and its new worker, and then holds the worker it
has found, the one it has used, or none. -/
theorem next_eq (hbelow : e.Below) :
    ∃ worker, e.next = e.left worker ∧ ∀ number, worker = some number →
      e.transport.worker = some number ∨ e.worker? = some number := by
  cases hjob : e.job? with
  | none =>
    refine ⟨e.transport.worker, ?_, fun number hheld => Or.inl hheld⟩
    rcases sent_of_no_job hjob with ⟨_, _, hsent⟩ | ⟨_, _, hsent⟩
    · exact congrArg (·.sending.next) hsent
    · exact congrArg (·.sending.next) hsent
  | some job =>
    rcases sent_of_job hjob hbelow with ⟨_, _, number, _, hsent, hworker, _⟩ | ⟨_, _, hsent, _⟩
    · refine ⟨some number, congrArg (·.sending.next) hsent, fun own hown => Or.inr ?_⟩
      rw [hworker, hown]
    · exact ⟨none, congrArg (·.sending.next) hsent, fun _ hnone => (nomatch hnone)⟩

theorem seqId_next (hbelow : e.Below) : e.next.seqId = e.transport.seqId + 1 := by
  obtain ⟨worker, hnext, _⟩ := next_eq hbelow
  rw [hnext, left]

theorem exchanges_next (hbelow : e.Below) :
    e.next.exchanges = e.transport.exchanges + e.job?.isSome.toNat := by
  obtain ⟨worker, hnext, _⟩ := next_eq hbelow
  rw [hnext, left]

theorem workersStarted_next (hbelow : e.Below) :
    e.next.workersStarted = e.transport.workersStarted + e.starts.toNat := by
  obtain ⟨worker, hnext, _⟩ := next_eq hbelow
  rw [hnext, left]

theorem length_after (e : RoundTrip) :
    e.after.workers.length = e.workshop.workers.length + e.starts.toNat := by
  have hstaffed : e.staffed.workers.length = e.workshop.workers.length + e.starts.toNat := by
    unfold staffed met
    cases e.starts with
    | true => simp
    | false => simp
  unfold after
  rw [Workshop.length_acts, ← hstaffed]
  cases e.handed? with
  | some handed => exact Workshop.length_hand _ _ _
  | none => rfl

end RoundTrip

end Telemetry
