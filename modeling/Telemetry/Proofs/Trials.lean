import Telemetry.Proofs.Stream

/-!
How a connection is opened. The addresses are tried in their order, round after round,
up to the first try that gives a connection. The tries that were made determine the
connection or the error and the remarks, and nothing but them and the lookup of the name
matters.
-/

namespace Telemetry

namespace Persistent

/-! ## The order of the tries -/

theorem tries_succ (rounds : Nat) (addresses : List String) :
    tries (rounds + 1) addresses =
      tries rounds addresses ++ addresses.map fun address => (address, rounds) := by
  unfold tries
  rw [List.range_succ, List.flatMap_append, List.flatMap_singleton]

theorem length_tries (rounds : Nat) (addresses : List String) :
    (tries rounds addresses).length = rounds * addresses.length := by
  induction rounds with
  | zero => simp [tries]
  | succ rounds ih => rw [tries_succ, List.length_append, List.length_map, ih, Nat.succ_mul]

/-- The tries go through the addresses in their order, round after round. -/
theorem getElem?_tries {rounds : Nat} {addresses : List String} {number : Nat}
    (hnumber : number < rounds * addresses.length) :
    (tries rounds addresses)[number]? =
      addresses[number % addresses.length]?.map (·, number / addresses.length) := by
  induction rounds with
  | zero => simp at hnumber
  | succ rounds ih =>
    rw [tries_succ, List.getElem?_append, length_tries]
    split
    next hearlier => exact ih hearlier
    next hlast =>
      rw [Nat.succ_mul] at hnumber
      have hrest : number - rounds * addresses.length < addresses.length := by omega
      have hsplit : number - rounds * addresses.length + addresses.length * rounds = number := by
        rw [Nat.mul_comm addresses.length]
        omega
      obtain ⟨hround, hindex⟩ :=
        (Nat.div_mod_unique (Nat.zero_lt_of_lt hrest)).mpr ⟨hsplit, hrest⟩
      rw [List.getElem?_map, hindex, hround]

/-! ## The tries that are made -/

/-- A try to connect: where, in which round, and how it ended. -/
structure Trial where
  address : String
  round : Nat
  ending : Except Unreachable Conduct

def Trial.remark (trial : Trial) : Diagnostic :=
  match trial.ending with
  | .ok _ => .connectionOpened trial.address trial.round
  | .error failure => .connectFailed trial.address trial.round failure.error.message

/-- The tries that are made, up to the first one that gives a connection. -/
def trials (network : Network) : (number : Nat) → List (String × Nat) → List Trial
  | _, [] => []
  | number, (address, round) :: rest =>
    ⟨address, round, network.attempt number⟩ ::
      match network.attempt number with
      | .ok _ => []
      | .error _ => trials network (number + 1) rest

variable {network : Network} {number : Nat} {places : List (String × Nat)}

theorem trials_ok {conduct : Conduct} (hattempt : network.attempt number = .ok conduct)
    (place : String × Nat) :
    trials network number (place :: places) = [⟨place.1, place.2, .ok conduct⟩] := by
  simp only [trials, hattempt]

theorem trials_error {failure : Unreachable} (hattempt : network.attempt number = .error failure)
    (place : String × Nat) :
    trials network number (place :: places) =
      ⟨place.1, place.2, .error failure⟩ :: trials network (number + 1) places := by
  simp only [trials, hattempt]

/-- The tries tell the rest: the last of them gives the result, and each has its remark. -/
theorem tryAll_eq (network : Network) (debug : Bool) (last : Unreachable) (number : Nat)
    (places : List (String × Nat)) :
    tryAll network debug last number places =
      ⟨((trials network number places).getLast?.map (·.ending)).getD (.error last),
        if debug then (trials network number places).map (·.remark) else []⟩ := by
  induction places generalizing last number with
  | nil =>
    rw [tryAll, trials]
    simp
  | cons place places ih =>
    cases hattempt : network.attempt number with
    | ok conduct =>
      rw [trials_ok hattempt]
      simp only [tryAll, hattempt]
      rfl
    | error failure =>
      have hresult := Option.getD_map (f := Trial.ending)
        (x := ⟨place.1, place.2, .error failure⟩)
        (o := (trials network (number + 1) places).getLast?)
      rw [trials_error hattempt, List.getLast?_cons, Option.map_some, Option.getD_some, ← hresult]
      simp only [tryAll, hattempt, ih]
      cases debug with
      | true => rfl
      | false => rfl

/-- Each try is the one planned at its place. -/
theorem trial_planned {index : Nat} {trial : Trial}
    (htrial : (trials network number places)[index]? = some trial) :
    places[index]? = some (trial.address, trial.round) ∧
      trial.ending = network.attempt (number + index) := by
  induction places generalizing number index with
  | nil => cases htrial
  | cons place places ih =>
    cases index with
    | zero =>
      obtain rfl := Option.some.inj htrial
      exact ⟨rfl, rfl⟩
    | succ index =>
      cases hattempt : network.attempt number with
      | ok conduct =>
        rw [trials_ok hattempt] at htrial
        cases htrial
      | error failure =>
        rw [trials_error hattempt] at htrial
        obtain ⟨hplace, hending⟩ := ih htrial
        refine ⟨hplace, hending.trans (congrArg network.attempt ?_)⟩
        omega

/-- The tries fail one after another until one gives a connection or all are made. -/
theorem trials_cases (network : Network) (number : Nat) (places : List (String × Nat)) :
    (∀ trial ∈ trials network number places, ∃ failure, trial.ending = .error failure) ∧
        (trials network number places).length = places.length ∨
      ∃ failed found conduct, trials network number places = failed ++ [found] ∧
        (∀ trial ∈ failed, ∃ failure, trial.ending = .error failure) ∧
        found.ending = .ok conduct := by
  induction places generalizing number with
  | nil => exact Or.inl ⟨fun trial hmember => absurd hmember List.not_mem_nil, rfl⟩
  | cons place places ih =>
    cases hattempt : network.attempt number with
    | ok conduct =>
      rw [trials_ok hattempt]
      exact Or.inr ⟨[], ⟨place.1, place.2, .ok conduct⟩, conduct, rfl,
        List.forall_mem_nil _, rfl⟩
    | error failure =>
      rw [trials_error hattempt]
      have hfirst : ∃ reason, (⟨place.1, place.2, .error failure⟩ : Trial).ending =
          .error reason := ⟨failure, rfl⟩
      rcases ih (number + 1) with ⟨hfailed, hlength⟩ | ⟨failed, found, conduct, hmade, hfailed, hfound⟩
      · exact Or.inl ⟨List.forall_mem_cons.mpr ⟨hfirst, hfailed⟩, congrArg (· + 1) hlength⟩
      · refine Or.inr ⟨⟨place.1, place.2, .error failure⟩ :: failed, found, conduct, ?_,
          List.forall_mem_cons.mpr ⟨hfirst, hfailed⟩, hfound⟩
        rw [hmade, List.cons_append]

/-- What later tries would have given does not matter. -/
theorem trials_congr {other : Network}
    (hsame : ∀ index < (trials network number places).length,
      other.attempt (number + index) = network.attempt (number + index)) :
    trials other number places = trials network number places := by
  induction places generalizing number with
  | nil => rfl
  | cons place places ih =>
    cases hattempt : network.attempt number with
    | ok conduct =>
      have hother : other.attempt number = .ok conduct := by
        rw [← hattempt]
        exact hsame 0 (by simp [trials])
      rw [trials_ok hattempt, trials_ok hother]
    | error failure =>
      rw [trials_error hattempt] at hsame ⊢
      have hother : other.attempt number = .error failure := by
        rw [← hattempt]
        exact hsame 0 (Nat.zero_lt_succ _)
      have hlater : ∀ index < (trials network (number + 1) places).length,
          other.attempt (number + 1 + index) = network.attempt (number + 1 + index) := by
        intro index hindex
        rw [Nat.add_assoc, Nat.add_comm 1]
        exact hsame (index + 1) (Nat.succ_lt_succ hindex)
      rw [trials_error hother, ih hlater]

end Persistent

theorem Unreachable.error_injective {first second : Unreachable}
    (hsame : first.error = second.error) : first = second := by
  cases first with
  | connect reason =>
    cases second with
    | connect other => exact congrArg _ (TransportError.connect.inj hsame)
    | tls other => cases hsame
  | tls reason =>
    cases second with
    | connect other => cases hsame
    | tls other => exact congrArg _ (TransportError.tls.inj hsame)

/-! ## Resolving -/

/-- The addresses that a lookup gives. -/
def Network.addresses (network : Network) : List String :=
  match network.lookup with
  | .ok addresses => addresses
  | .error _ => []

namespace Persistent

/-- The addresses at hand once the name has been looked up, which is done only while
there are none. -/
def known (t : Persistent) (network : Network) : List String :=
  if t.addresses = [] then network.addresses else t.addresses

theorem known_of_some {t : Persistent} (haddresses : t.addresses ≠ []) (network : Network) :
    t.known network = t.addresses :=
  if_neg haddresses

theorem known_of_none {t : Persistent} (haddresses : t.addresses = []) (network : Network) :
    t.known network = network.addresses :=
  if_pos haddresses

theorem resolve_unknown {t : Persistent} {network : Network} (hknown : t.known network = []) :
    ∃ reason, t.resolve network = (.error (.resolve reason), t) := by
  have haddresses : t.addresses = [] :=
    Decidable.byContradiction fun hsome => hsome (known_of_some hsome network ▸ hknown)
  rw [known_of_none haddresses, Network.addresses] at hknown
  simp only [resolve, haddresses]
  cases hlookup : network.lookup with
  | error reason => exact ⟨_, rfl⟩
  | ok found =>
    simp only [hlookup] at hknown
    exact ⟨_, by rw [hknown]⟩

theorem resolve_known {t : Persistent} {network : Network} (hknown : t.known network ≠ []) :
    t.resolve network = (.ok (t.known network), { t with addresses := t.known network }) := by
  by_cases haddresses : t.addresses = []
  · rw [known_of_none haddresses, Network.addresses] at hknown ⊢
    simp only [resolve, haddresses]
    cases hlookup : network.lookup with
    | error reason => simp [hlookup] at hknown
    | ok found =>
      cases found with
      | nil => simp [hlookup] at hknown
      | cons first others => rfl
  · obtain ⟨first, others, hcons⟩ := List.exists_cons_of_ne_nil haddresses
    rw [known_of_some haddresses]
    show t.resolve network = (.ok t.addresses, t)
    simp only [resolve, hcons]

/-! ## Opening a connection -/

/-- The plan of a send that opens a connection: every address in every round. -/
def planned (t : Persistent) (network : Network) : List (String × Nat) :=
  tries (max 1 t.connect.connectAttempts) (t.known network)

/-- The tries of a send that opens a connection. -/
def tried (t : Persistent) (network : Network) : List Trial :=
  trials network 0 (t.planned network)

theorem openNew_unknown {t : Persistent} {network : Network} (hknown : t.known network = []) :
    ∃ reason, t.openNew network = ⟨.error (.resolve reason), [], t⟩ := by
  obtain ⟨reason, hresolve⟩ := resolve_unknown hknown
  exact ⟨reason, by simp only [openNew, hresolve]⟩

/-- With an address there is a try, and the last one tells how it ended. -/
theorem openNew_known {t : Persistent} {network : Network} (hknown : t.known network ≠ []) :
    ∃ last, (t.tried network).getLast? = some last ∧
      t.openNew network =
        match last.ending with
        | .error failure =>
          ⟨.error failure.error,
            if t.debug then (t.tried network).map (·.remark) else [],
            { t with addresses := t.known network }⟩
        | .ok conduct =>
          ⟨.ok (t.metrics.connectionsOpened, conduct),
            if t.debug then (t.tried network).map (·.remark) else [],
            { t with
              addresses := t.known network
              held := some t.metrics.connectionsOpened
              metrics := { t.metrics with
                connectionsOpened := t.metrics.connectionsOpened + 1 } }⟩ := by
  have hplanned : t.planned network ≠ [] := by
    rw [planned, ← List.length_pos_iff, length_tries]
    exact Nat.mul_pos (Nat.le_max_left 1 _) (List.length_pos_iff.mpr hknown)
  have hsome : t.tried network ≠ [] := by
    obtain ⟨place, places, hcons⟩ := List.exists_cons_of_ne_nil hplanned
    rw [tried, hcons, trials]
    exact List.cons_ne_nil _ _
  refine ⟨(t.tried network).getLast hsome, List.getLast?_eq_some_getLast hsome, ?_⟩
  have hall := tryAll_eq network t.debug (.connect "no connection attempt made") 0
    (t.planned network)
  rw [← tried, List.getLast?_eq_some_getLast hsome, Option.map_some, Option.getD_some] at hall
  simp only [openNew, resolve_known hknown]
  generalize htry : tryAll network t.debug (.connect "no connection attempt made") 0 _ = connecting
  obtain rfl : connecting = _ := htry.symm.trans hall
  cases ((t.tried network).getLast hsome).ending with
  | error failure => rfl
  | ok conduct => rfl

theorem resolve_congr {t : Persistent} {network other : Network}
    (hlookup : t.addresses = [] → other.lookup = network.lookup) :
    t.resolve other = t.resolve network := by
  unfold resolve
  cases haddresses : t.addresses with
  | nil => rw [hlookup haddresses]
  | cons first others => rfl

/-- Nothing matters but the lookup, if there is one, and the tries that are made. -/
theorem openNew_congr {t : Persistent} {network other : Network}
    (hlookup : t.addresses = [] → other.lookup = network.lookup)
    (hattempt : ∀ number < (t.tried network).length,
      other.attempt number = network.attempt number) :
    t.openNew other = t.openNew network := by
  have htrials : trials other 0 (t.planned network) = trials network 0 (t.planned network) := by
    apply trials_congr
    intro number hnumber
    rw [Nat.zero_add]
    exact hattempt number hnumber
  unfold openNew
  rw [resolve_congr hlookup]
  by_cases hknown : t.known network = []
  · obtain ⟨reason, hresolve⟩ := resolve_unknown hknown
    simp only [hresolve]
  · simp only [resolve_known hknown, tryAll_eq]
    rw [← planned, htrials]

/-- A connection found closed is let go and told of before a new one is tried. -/
theorem reach_of_closed {t : Persistent} {network : Network}
    (hclosed : t.held = none ∨ staysOpen network.held = false) :
    t.reach network =
      { openNew { t with held := none } network with
        remarks := (if t.held.isSome && t.debug then [.collectorClosed] else []) ++
          (openNew { t with held := none } network).remarks } := by
  unfold reach
  cases hheld : t.held with
  | none =>
    have hkeep : { t with held := none } = t := by rw [← hheld]
    rw [hkeep]
    rfl
  | some number =>
    rcases hclosed with hnone | hclosed
    · rw [hheld] at hnone
      cases hnone
    · simp only [hclosed]
      rfl

end Persistent

end Telemetry
