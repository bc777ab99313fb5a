import Telemetry.Proofs.Trials

/-!
The sends of a run that open a connection. Each goes through the addresses in their
order, round after round, and what its last try gives is what it finds. The name is
looked up again in each of them until it resolves to some address, and that list serves
all later ones.
-/

namespace Telemetry

namespace Exchange

open Persistent

/-- The send has a frame and no connection to write it on, so it opens one. -/
def opens (e : Exchange) : Bool :=
  e.frame?.isSome && (e.before.held.isNone || !staysOpen e.network.held)

/-- The addresses at hand once a send that opens a connection has resolved the name. -/
def addresses (e : Exchange) : List String :=
  e.before.known e.network

/-- The tries of a send that opens a connection. -/
def tried (e : Exchange) : List Trial :=
  e.before.tried e.network

/-- How many rounds of the addresses there are at most. -/
def rounds (e : Exchange) : Nat :=
  max 1 e.before.connect.connectAttempts

theorem opens_iff (e : Exchange) :
    e.opens = true ↔
      e.frame?.isSome = true ∧ (e.before.held = none ∨ staysOpen e.network.held = false) := by
  unfold opens
  rw [Bool.and_eq_true, Bool.or_eq_true, Option.isNone_iff_eq_none, Bool.not_eq_true']

/-- The state in which a send opens a connection. -/
def opening (e : Exchange) : Persistent :=
  { e.before with seqId := e.before.seqId + 1, held := none }

theorem reached_of_opens {e : Exchange} (hopens : e.opens = true) :
    e.reached =
      { e.opening.openNew e.network with
        remarks := (if e.before.held.isSome && e.before.debug then [.collectorClosed] else []) ++
          (e.opening.openNew e.network).remarks } :=
  reach_of_closed ((opens_iff e).mp hopens).2

/-- The send depends on the network only through the frame's connection. -/
theorem sent_congr {e : Exchange} {network : Network}
    (hreached : ({ e with network } : Exchange).reached = e.reached) :
    ({ e with network } : Exchange).sent = e.sent := by
  have hsame : { e.before with seqId := e.before.seqId + 1 }.reach network =
      { e.before with seqId := e.before.seqId + 1 }.reach e.network := hreached
  unfold sent Persistent.send Persistent.sendFrame
  dsimp only
  rw [hsame]

/-- The error that stands where no try was made. -/
def noTrial : Unreachable :=
  .connect "no connection attempt made"

/-- How a send that has addresses opens a connection. -/
structure Retried (e : Exchange) : Prop where
  /-- The tries go through the addresses in their order, round after round. -/
  order : ∀ number trial, e.tried[number]? = some trial →
    e.addresses[number % e.addresses.length]? = some trial.address ∧
    trial.round = number / e.addresses.length ∧
    trial.ending = e.network.attempt number
  /-- Only the last try may give a connection. -/
  failing : ∀ trial ∈ e.tried.dropLast, ∃ failure, trial.ending = .error failure
  /-- The last try gives the connection; or it fails, and so did all of all rounds. -/
  result : ∃ last, e.tried.getLast? = some last ∧
    ((∃ conduct, last.ending = .ok conduct ∧
        e.reached.result = .ok (e.before.metrics.connectionsOpened, conduct)) ∨
      ∃ failure, last.ending = .error failure ∧
        e.tried.length = e.rounds * e.addresses.length ∧
        e.reached.result = .error failure.error)
  /-- An error is that of a try. -/
  genuine : (∀ trial ∈ e.tried, trial.ending ≠ .error noTrial) →
    e.reached.result ≠ .error noTrial.error
  /-- Each try is told of, in this order. -/
  told : e.reached.remarks =
    if e.before.debug then
      (if e.before.held.isSome then [.collectorClosed] else []) ++ e.tried.map (·.remark)
    else []
  /-- No other try has any effect, and no lookup once there are addresses. -/
  only : ∀ network : Network, network.held = e.network.held →
    (e.before.addresses = [] → network.lookup = e.network.lookup) →
    (∀ number < e.tried.length, network.attempt number = e.network.attempt number) →
    ({ e with network } : Exchange).sent = e.sent

theorem tried_planned {e : Exchange} {number : Nat} {trial : Trial}
    (htrial : e.tried[number]? = some trial) :
    e.addresses[number % e.addresses.length]? = some trial.address ∧
      trial.round = number / e.addresses.length ∧
      trial.ending = e.network.attempt number := by
  obtain ⟨hplanned, hending⟩ := trial_planned htrial
  have hnumber : number < (e.before.planned e.network).length :=
    (List.getElem?_eq_some_iff.mp hplanned).1
  rw [planned, length_tries] at hnumber
  rw [planned, getElem?_tries hnumber, Option.map_eq_some_iff] at hplanned
  obtain ⟨address, haddress, hpair⟩ := hplanned
  obtain ⟨rfl, hround⟩ := Prod.mk.inj hpair
  refine ⟨haddress, hround.symm, ?_⟩
  rw [hending, Nat.zero_add]

/-- What a send finds that has no address. -/
theorem reached_unknown {e : Exchange} (hopens : e.opens = true) (haddresses : e.addresses = []) :
    (∃ reason, e.reached.result = .error (.resolve reason)) ∧ e.reached.next = e.opening := by
  obtain ⟨reason, hopened⟩ := openNew_unknown (t := e.opening) haddresses
  rw [reached_of_opens hopens, hopened]
  exact ⟨⟨reason, rfl⟩, rfl⟩

/-- What the last try gives is what the send finds. -/
theorem reached_known {e : Exchange} (hopens : e.opens = true) (haddresses : e.addresses ≠ []) :
    ∃ last, e.tried.getLast? = some last ∧
      ((∃ conduct, last.ending = .ok conduct ∧
          e.reached.result = .ok (e.before.metrics.connectionsOpened, conduct) ∧
          e.reached.next = { e.opening with
            addresses := e.addresses
            held := some e.before.metrics.connectionsOpened
            metrics := { e.before.metrics with
              connectionsOpened := e.before.metrics.connectionsOpened + 1 } }) ∨
        ∃ failure, last.ending = .error failure ∧
          e.reached.result = .error failure.error ∧
          e.reached.next = { e.opening with addresses := e.addresses }) := by
  obtain ⟨last, hlast, hopened⟩ := openNew_known (t := e.opening) haddresses
  refine ⟨last, hlast, ?_⟩
  rw [reached_of_opens hopens, hopened]
  cases last.ending with
  | ok conduct => exact Or.inl ⟨conduct, rfl, rfl, rfl⟩
  | error failure => exact Or.inr ⟨failure, rfl, rfl, rfl⟩

theorem remarks_known {e : Exchange} (hopens : e.opens = true) (haddresses : e.addresses ≠ []) :
    e.reached.remarks =
      if e.before.debug then
        (if e.before.held.isSome then [.collectorClosed] else []) ++ e.tried.map (·.remark)
      else [] := by
  have hremarks : (e.opening.openNew e.network).remarks =
      if e.before.debug then e.tried.map (·.remark) else [] := by
    obtain ⟨last, _, hopened⟩ := openNew_known (t := e.opening) haddresses
    rw [hopened]
    cases last.ending with
    | ok conduct => rfl
    | error failure => rfl
  rw [reached_of_opens hopens]
  dsimp only
  rw [hremarks]
  cases e.before.debug with
  | true => simp only [Bool.and_true, if_true]
  | false => simp

/-- Every try before the last one failed. -/
theorem failed_dropLast {e : Exchange} :
    ∀ trial ∈ e.tried.dropLast, ∃ failure, trial.ending = .error failure := by
  intro trial hmember
  rcases trials_cases e.network 0 (e.before.planned e.network) with
    ⟨hfailed, _⟩ | ⟨failed, found, conduct, hmade, hfailed, _⟩
  · exact hfailed trial (List.dropLast_subset _ hmember)
  · rw [tried, Persistent.tried, hmade, List.dropLast_concat] at hmember
    exact hfailed trial hmember

/-- If the last try failed, none is left. -/
theorem length_tried {e : Exchange} {last : Trial} (hlast : e.tried.getLast? = some last)
    {failure : Unreachable} (hending : last.ending = .error failure) :
    e.tried.length = e.rounds * e.addresses.length := by
  have hplanned : (e.before.planned e.network).length = e.rounds * e.addresses.length :=
    length_tries _ _
  rw [tried, Persistent.tried] at hlast ⊢
  rcases trials_cases e.network 0 (e.before.planned e.network) with
    ⟨_, hlength⟩ | ⟨failed, found, conduct, hmade, _, hfound⟩
  · exact hlength.trans hplanned
  · rw [hmade, List.getLast?_concat] at hlast
    obtain rfl := Option.some.inj hlast
    rw [hending] at hfound
    cases hfound

theorem retried_of_opens {e : Exchange} (hopens : e.opens = true)
    (haddresses : e.addresses ≠ []) : e.Retried := by
  obtain ⟨last, hlast, hends⟩ := reached_known hopens haddresses
  constructor
  case order => exact fun number trial => tried_planned
  case failing => exact failed_dropLast
  case result =>
    refine ⟨last, hlast, ?_⟩
    rcases hends with ⟨conduct, hending, hresult, _⟩ | ⟨failure, hending, hresult, _⟩
    · exact Or.inl ⟨conduct, hending, hresult⟩
    · exact Or.inr ⟨failure, hending, length_tried hlast hending, hresult⟩
  case genuine =>
    intro hgenuine hresult
    rcases hends with ⟨conduct, _, hreached, _⟩ | ⟨failure, hending, hreached, _⟩
    · rw [hreached] at hresult
      cases hresult
    · rw [hreached] at hresult
      have hsame : failure = noTrial := Unreachable.error_injective (Except.error.inj hresult)
      exact hgenuine last (List.mem_of_getLast? hlast) (hsame ▸ hending)
  case told => exact remarks_known hopens haddresses
  case only =>
    intro network hheld hlookup hattempt
    have hother : ({ e with network } : Exchange).opens = true := by
      rw [opens_iff] at hopens ⊢
      rwa [hheld]
    apply sent_congr
    rw [reached_of_opens hopens, reached_of_opens hother]
    have hsame : e.opening.openNew network = e.opening.openNew e.network :=
      openNew_congr hlookup hattempt
    rw [← hsame]
    rfl

end Exchange

namespace Persistent

/-! ## The end of a send -/

/-- What the end of a send leaves of the state in which the frame was written. -/
def settled (t : Persistent) (length : Nat) : Answer → Persistent
  | .panicked => t
  | .settled (.failed error) =>
    { t with
      held := if error.isConnectionFatal then none else t.held
      metrics := failedOnce t.metrics }
  | .settled _ =>
    { t with metrics := { t.metrics with
        reportsWritten := t.metrics.reportsWritten + 1
        bytesWritten := t.metrics.bytesWritten + length } }

theorem next_sendFrame (t : Persistent) (frame : List UInt8) (network : Network) :
    (t.sendFrame frame network).sending.next =
      settled (t.reach network).next frame.length
        (t.sendFrame frame network).sending.answer := by
  unfold sendFrame
  dsimp only
  split
  · rfl
  · split
    · rfl
    · rfl
    · rfl

theorem addresses_settled (t : Persistent) (length : Nat) (answer : Answer) :
    (settled t length answer).addresses = t.addresses := by
  cases answer with
  | panicked => rfl
  | settled outcome => cases outcome <;> rfl

end Persistent

namespace Exchange

open Persistent

/-- Whatever became of a frame, the state follows from where it was written and from the
answer. -/
theorem after_of_frame? {e : Exchange} {frame : List UInt8} (hframe : e.frame? = some frame) :
    e.after = settled e.reached.next frame.length e.answer := by
  rw [after, answer, sent_of_frame? hframe]
  exact next_sendFrame _ frame e.network

end Exchange

namespace Persistent

/-! ## What no send changes -/

/-- The place, the form of calls and the settings are the same. -/
structure SameSetup (t u : Persistent) : Prop where
  endpoint : u.endpoint = t.endpoint
  format : u.format = t.format
  connect : u.connect = t.connect
  debug : u.debug = t.debug

theorem SameSetup.refl (t : Persistent) : SameSetup t t :=
  ⟨rfl, rfl, rfl, rfl⟩

theorem SameSetup.trans {t u v : Persistent} (hfirst : SameSetup t u) (hsecond : SameSetup u v) :
    SameSetup t v where
  endpoint := hsecond.endpoint.trans hfirst.endpoint
  format := hsecond.format.trans hfirst.format
  connect := hsecond.connect.trans hfirst.connect
  debug := hsecond.debug.trans hfirst.debug

theorem setup_openNew (t : Persistent) (network : Network) :
    SameSetup t (t.openNew network).next := by
  obtain ⟨addresses, ⟨error, remarks, hnew, _⟩ | ⟨conduct, remarks, hnew⟩⟩ :=
    openNew_cases t network
  · rw [hnew]
    exact ⟨rfl, rfl, rfl, rfl⟩
  · rw [hnew]
    exact ⟨rfl, rfl, rfl, rfl⟩

theorem setup_reach (t : Persistent) (network : Network) :
    SameSetup t (t.reach network).next := by
  unfold reach
  split
  · exact setup_openNew t network
  · split
    · exact SameSetup.refl t
    · have hlet : SameSetup t { t with held := none } := ⟨rfl, rfl, rfl, rfl⟩
      exact hlet.trans (setup_openNew _ network)

theorem setup_settled (t : Persistent) (length : Nat) (answer : Answer) :
    SameSetup t (settled t length answer) := by
  cases answer with
  | panicked => exact SameSetup.refl t
  | settled outcome => cases outcome <;> exact ⟨rfl, rfl, rfl, rfl⟩

end Persistent

namespace Exchange

open Persistent

theorem setup_after (e : Exchange) : SameSetup e.before e.after := by
  have hnumbered : SameSetup e.before { e.before with seqId := e.before.seqId + 1 } :=
    ⟨rfl, rfl, rfl, rfl⟩
  cases hframe : e.frame? with
  | none =>
    obtain ⟨error, hsent⟩ := sent_of_frame?_none hframe
    rw [after, hsent]
    exact ⟨rfl, rfl, rfl, rfl⟩
  | some frame =>
    rw [after_of_frame? hframe]
    exact (hnumbered.trans (setup_reach _ e.network)).trans (setup_settled _ _ _)

end Exchange

namespace Persistent

theorem setup_run {t : Persistent} (uses : List Use) :
    ∀ e ∈ t.sends uses, SameSetup t e.before := by
  induction uses generalizing t with
  | nil => exact List.forall_mem_nil _
  | cons use uses ih =>
    cases use with
    | close =>
      have hclose : SameSetup t t.close := ⟨rfl, rfl, rfl, rfl⟩
      rw [sends_close]
      exact fun e hmember => hclose.trans (ih e hmember)
    | send auth report network =>
      rw [sends_send]
      refine List.forall_mem_cons.mpr ⟨SameSetup.refl t, fun e hmember => ?_⟩
      exact (Exchange.setup_after ⟨t, auth, report, network⟩).trans (ih e hmember)

end Persistent

namespace Exchange

open Persistent

/-! ## The addresses over a run -/

/-- A send that finds its connection open does not look for another. -/
theorem reached_of_open {e : Exchange} (hframe : e.frame?.isSome = true)
    (hopens : e.opens = false) :
    ∃ number, e.before.held = some number ∧
      e.reached = ⟨.ok (number, e.network.held), [],
        { e.before with seqId := e.before.seqId + 1 }⟩ := by
  unfold opens at hopens
  rw [hframe, Bool.true_and, Bool.or_eq_false_iff, Bool.not_eq_false', Option.isNone_eq_false_iff,
    Option.isSome_iff_exists] at hopens
  obtain ⟨⟨number, hheld⟩, hopen⟩ := hopens
  refine ⟨number, hheld, ?_⟩
  simp only [reached, Persistent.reach, hheld, hopen]
  rfl

theorem addresses_after (e : Exchange) :
    e.after.addresses = if e.opens then e.addresses else e.before.addresses := by
  cases hframe : e.frame? with
  | none =>
    obtain ⟨error, hsent⟩ := sent_of_frame?_none hframe
    have hopens : e.opens = false := by rw [opens, hframe]; rfl
    rw [after, hsent, hopens]
    rfl
  | some frame =>
    have hsome : e.frame?.isSome = true := by rw [hframe]; rfl
    rw [after_of_frame? hframe, addresses_settled]
    cases hopens : e.opens with
    | false =>
      obtain ⟨number, _, hreached⟩ := reached_of_open hsome hopens
      rw [hreached]
      rfl
    | true =>
      by_cases haddresses : e.addresses = []
      · have hbefore : e.before.addresses = [] := by
          refine Decidable.byContradiction fun hsome => hsome ?_
          rwa [addresses, known_of_some hsome] at haddresses
        rw [(reached_unknown hopens haddresses).2, haddresses]
        exact hbefore
      · obtain ⟨_, _, ⟨_, _, _, hnext⟩ | ⟨_, _, _, hnext⟩⟩ := reached_known hopens haddresses
        · rw [hnext]
          rfl
        · rw [hnext]
          rfl

end Exchange

namespace Persistent

/-- The addresses that the sends of a run have resolved: those of the first lookup that
gave any, in a send that opens a connection. -/
def resolved (exchanges : List Exchange) : List String :=
  (((exchanges.filter (·.opens)).map (·.network.addresses)).find? (!·.isEmpty)).getD []

theorem resolved_cons (e : Exchange) (exchanges : List Exchange) :
    resolved (e :: exchanges) =
      if e.opens = true ∧ e.network.addresses ≠ [] then e.network.addresses
      else resolved exchanges := by
  unfold resolved
  cases hopens : e.opens with
  | false => simp [hopens]
  | true =>
    cases haddresses : e.network.addresses with
    | nil => simp [hopens, haddresses]
    | cons first others => simp [hopens, haddresses]

/-- What a send starts with is what the sends before it have resolved. -/
theorem addresses_run {t : Persistent} {uses : List Use} {earlier later : List Exchange}
    {e : Exchange} (hsends : t.sends uses = earlier ++ e :: later) :
    e.before.addresses = if t.addresses = [] then resolved earlier else t.addresses := by
  induction uses generalizing t earlier with
  | nil => cases earlier <;> cases hsends
  | cons use uses ih =>
    cases use with
    | close =>
      have hclosed := ih (hsends : t.close.sends uses = earlier ++ e :: later)
      exact hclosed
    | send auth report network =>
      rw [sends_send] at hsends
      cases earlier with
      | nil =>
        obtain ⟨rfl, _⟩ := List.cons.inj hsends
        by_cases haddresses : t.addresses = []
        · rw [if_pos haddresses, haddresses]
          rfl
        · rw [if_neg haddresses]
      | cons first earlier =>
        obtain ⟨rfl, hrest⟩ := List.cons.inj hsends
        rw [ih hrest, Exchange.addresses_after, resolved_cons, Exchange.addresses]
        by_cases haddresses : t.addresses = []
        · rw [known_of_none haddresses]
          cases (⟨t, auth, report, network⟩ : Exchange).opens with
          | false => simp [haddresses]
          | true => by_cases hfound : network.addresses = [] <;> simp [haddresses, hfound]
        · rw [known_of_some haddresses, ite_self, if_neg haddresses, if_neg haddresses]

/-- What a send that opens a connection does after those before it. -/
structure Opened (earlier : List Exchange) (e : Exchange) : Prop where
  /-- What has been resolved is kept. -/
  stored : e.before.addresses = resolved earlier
  /-- The name is looked up exactly as long as nothing has been resolved. -/
  addresses : e.addresses =
    if resolved earlier = [] then e.network.addresses else resolved earlier
  /-- Without an address nothing is tried. -/
  unresolved : e.addresses = [] → ∃ reason, e.reached.result = .error (.resolve reason)
  retried : e.addresses ≠ [] → e.Retried

/-- Every send that opens a connection tries all addresses in every round up to the first
success, on the list that the first successful lookup gave. -/
theorem opened_by_trials (t : Persistent) (haddresses : t.addresses = []) (uses : List Use)
    {earlier later : List Exchange} {e : Exchange}
    (hsends : t.sends uses = earlier ++ e :: later) (hopens : e.opens = true) :
    Opened earlier e := by
  have hstored : e.before.addresses = resolved earlier := by
    rw [addresses_run hsends, if_pos haddresses]
  constructor
  case stored => exact hstored
  case addresses => rw [Exchange.addresses, known, hstored]
  case unresolved => exact fun hnone => (Exchange.reached_unknown hopens hnone).1
  case retried => exact Exchange.retried_of_opens hopens

/-- Two rounds of every list of addresses. -/
def Redial.transport : Persistent where
  endpoint := ⟨.plain, "", 80, "/"⟩
  format := ⟨"", fun _ => .ok [1, 2, 3], fun _ => .error (.decode "")⟩
  connect := { connectAttempts := 2 }

def Redial.send (lookup : Except String (List String))
    (attempt : Nat → Except Unreachable Conduct) : Use :=
  .send ⟨""⟩ ⟨⟨"", 0, ""⟩, 1, 2, [], [], []⟩ ⟨lookup, attempt, {}⟩

/-- Two lookups give no address. Of the next list only the last try succeeds, and it
serves again after the connection was closed, when every try fails. -/
def Redial.uses : List Use :=
  [Redial.send (.error "no such host") fun _ => .ok {},
    Redial.send (.ok []) fun _ => .ok {},
    Redial.send (.ok ["a", "b"]) fun number =>
      if number < 3 then .error (.connect "refused") else .ok {},
    .close,
    Redial.send (.ok ["c"]) fun number => .error (.tls (toString number))]

theorem opened_by_trials_redial :
    let exchanges := Redial.transport.sends Redial.uses
    let places := [("a", 0), ("b", 0), ("a", 1), ("b", 1)]
    (exchanges.map fun e =>
        (e.tried.map fun trial => (trial.address, trial.round), e.answer)) =
      [([], .settled (.failed (.resolve ": no such host"))),
        ([], .settled (.failed (.resolve ""))),
        (places, .settled .unconfirmed),
        (places, .settled (.failed (.tls "3")))] ∧
    ∃ e, exchanges = exchanges.dropLast ++ [e] ∧ e.opens = true ∧
      Opened exchanges.dropLast e := by
  have hall : ∀ e ∈ Redial.transport.sends Redial.uses, e.opens = true := by decide +kernel
  intro exchanges places
  have hsome : exchanges ≠ [] := List.cons_ne_nil _ _
  have hsends : exchanges = exchanges.dropLast ++ [exchanges.getLast hsome] :=
    (List.dropLast_concat_getLast hsome).symm
  have hopens := hall _ (List.getLast_mem hsome)
  exact ⟨by decide +kernel, exchanges.getLast hsome, hsends, hopens,
    opened_by_trials Redial.transport rfl Redial.uses hsends hopens⟩

end Persistent

end Telemetry
