import Telemetry.Proofs.Holding

/-!
Everything that a recorder sends goes out under one identity. It comes from the
options or from the first call that names one, it is derived with the start of the
recorder, and no later call can change it. A record is made with the guid or with
none, and what has none when it is sent gets it then; so it is kept up that a record
that is held has no guid or the one guid, wherever a full buffer has put it.
-/

namespace Telemetry

namespace Sha256

theorem length_bigEndian (count n : Nat) : (bigEndian count n).length = count := by
  simp [bigEndian]

theorem length_digest (message : List UInt8) : (digest message).length = 32 := by
  simp [digest, Chain.words, length_bigEndian]

end Sha256

theorem Hex.length_encode (octets : List UInt8) : (encode octets).length = 2 * octets.length := by
  simp only [encode, String.length_ofList]
  induction octets with
  | nil => rfl
  | cons octet rest ih =>
    simp only [List.flatMap_cons, List.length_append, encodeOctet, List.length_cons,
      List.length_nil, ih]
    omega

namespace Identity

theorem length_deriveGuid (processId : UInt32) (accessToken groupName : String) :
    (deriveGuid processId accessToken groupName).length = 32 := by
  simp [deriveGuid, Hex.length_encode, Sha256.length_digest]

theorem deriveGuid_ne_empty (processId : UInt32) (accessToken groupName : String) :
    deriveGuid processId accessToken groupName ≠ "" := by
  intro hempty
  have hlength := length_deriveGuid processId accessToken groupName
  rw [hempty] at hlength
  cases hlength

theorem validate_ok_iff (groupName accessToken : String) :
    validate groupName accessToken = .ok () ↔ groupName ≠ "" ∧ accessToken ≠ "" := by
  unfold validate
  by_cases htoken : accessToken = ""
  · simp [htoken]
  · by_cases hgroup : groupName = ""
    · simp [htoken, hgroup]
    · simp [htoken, hgroup]

theorem checkConsistent_ok_iff (identity : Identity) (groupName accessToken : String) :
    identity.checkConsistent groupName accessToken = .ok () ↔
      identity.groupName = groupName ∧ identity.accessToken = accessToken := by
  unfold checkConsistent
  by_cases htoken : identity.accessToken = accessToken
  · by_cases hgroup : identity.groupName = groupName
    · simp [htoken, hgroup]
    · simp [htoken, hgroup]
  · simp [htoken]

end Identity

namespace RecordKind

theorem runtimeGuid_stamp (kind : RecordKind) (guid : String) (record : kind.Record)
    (hguid : kind.runtimeGuid record = "" ∨ kind.runtimeGuid record = guid) :
    kind.runtimeGuid (kind.stamp guid record) = guid := by
  cases kind with
  | log => exact congrArg LogRecord.runtimeGuid (Recorder.stampLog_guid guid record hguid)
  | span => exact congrArg SpanRecord.runtimeGuid (Recorder.stampSpan_guid guid record hguid)

end RecordKind

namespace Recorder

variable {σ : Type}

/-! ## Which names are accepted -/

/-- The identity that these names, the group first, give a recorder. -/
def identityOf (r : Recorder σ) (names : String × String) : Identity where
  accessToken := names.2
  groupName := names.1
  guid := Identity.deriveGuid r.processId names.2 names.1
  startMicros := r.startMicros

/-- The names that a recorder reports under. -/
def names? (r : Recorder σ) : Option (String × String) :=
  r.identity.map fun identity => (identity.groupName, identity.accessToken)

/-- The names that an action sets, if they are accepted. -/
def Action.names? (action : Action) (r : Recorder σ) : Option (String × String) :=
  match action with
  | .setIdentity groupName accessToken =>
    match r.setIdentity groupName accessToken with
    | .ok _ => some (groupName, accessToken)
    | .error _ => none
  | _ => none

/-- The names that a run accepts, in the order of the calls. -/
def acceptedNames (T : Transport σ) (r : Recorder σ) : List Action → List (String × String)
  | [] => []
  | action :: rest => (action.names? r).toList ++ acceptedNames T (action.apply T r).next rest

theorem ofProcess_eq (r : Recorder σ) (groupName accessToken : String)
    (hvalid : Identity.validate groupName accessToken = .ok ()) :
    Identity.ofProcess r.processId groupName accessToken r.startMicros =
      .ok (r.identityOf (groupName, accessToken)) := by
  unfold Identity.ofProcess
  rw [hvalid]
  rfl

/-- Names are accepted if neither is empty and they contradict none that are known. -/
theorem setIdentity_ok_iff (r : Recorder σ) (groupName accessToken : String) :
    (∃ turn, r.setIdentity groupName accessToken = .ok turn) ↔
      (groupName ≠ "" ∧ accessToken ≠ "") ∧
        (r.names? = none ∨ r.names? = some (groupName, accessToken)) := by
  rw [← Identity.validate_ok_iff]
  unfold setIdentity names?
  cases hvalid : Identity.validate groupName accessToken with
  | error refusal =>
    constructor
    · rintro ⟨turn, hok⟩
      cases hok
    · rintro ⟨hok, _⟩
      cases hok
  | ok _ =>
    cases hidentity : r.identity with
    | none =>
      refine ⟨fun _ => ⟨rfl, Or.inl rfl⟩, fun _ => ?_⟩
      simp only [ofProcess_eq r groupName accessToken hvalid]
      exact ⟨_, rfl⟩
    | some identity =>
      have hsame : (identity.checkConsistent groupName accessToken = .ok ()) ↔
          some (identity.groupName, identity.accessToken) = some (groupName, accessToken) := by
        rw [identity.checkConsistent_ok_iff, Option.some.injEq, Prod.mk.injEq]
      constructor
      · rintro ⟨turn, hok⟩
        obtain ⟨_, _, hok⟩ := ok_of_bind_ok hok
        obtain ⟨_, hconsistent, _⟩ := ok_of_bind_ok hok
        exact ⟨rfl, Or.inr (hsame.mp hconsistent)⟩
      · rintro ⟨_, hnone | hnames⟩
        · cases hnone
        · simp only [hsame.mpr hnames]
          exact ⟨_, rfl⟩

/-- A recorder that is known keeps its identity, and another one takes over the names
that an action sets. -/
theorem Action.identity_taken (action : Action) (r : Recorder σ) :
    (action.taken r).identity = r.identity.or ((action.names? r).map r.identityOf) := by
  cases action with
  | setIdentity groupName accessToken =>
    simp only [taken, names?]
    cases hset : r.setIdentity groupName accessToken with
    | error refusal => simp
    | ok turn =>
      rcases (setIdentity_cases r groupName accessToken turn hset).2 with
        ⟨identity, hknown, hnext⟩ | ⟨hunknown, identity, hderived, hnext⟩
      · simp [hnext, hknown]
      · obtain ⟨hvalid, hidentity⟩ := Identity.ofProcess_ok hderived
        simp [hnext, hunknown, hidentity, identityOf]
  | log clock entry =>
    simp only [taken, names?]
    cases (log clock entry).record? r .log with
    | none => exact Option.or_none.symm
    | some record => exact Option.or_none.symm
  | finishSpan clock data =>
    simp only [taken, names?]
    cases (finishSpan clock data).record? r .span with
    | none => exact Option.or_none.symm
    | some record => exact Option.or_none.symm
  | flush now => simp [taken, names?]
  | shutdown now => simp [taken, names?]
  | disable => simp [taken, names?, Recorder.disable]

theorem identityOf_apply (T : Transport σ) (r : Recorder σ) (action : Action) :
    (action.apply T r).next.identityOf = r.identityOf := by
  have hsettings := action.settings_apply T r
  have hstart := congrArg Settings.startMicros hsettings
  have hprocess := congrArg Settings.processId hsettings
  funext names
  simp only [settings] at hstart hprocess
  simp only [identityOf, hstart, hprocess]

/-- The identity after a run is the one before it, or else comes from the first names
that the run accepts. -/
theorem identity_of_run (T : Transport σ) (r : Recorder σ) (actions : List Action) :
    (run T r actions).next.identity =
      r.identity.or ((acceptedNames T r actions).head?.map r.identityOf) := by
  induction actions generalizing r with
  | nil => simp [run, acceptedNames]
  | cons action rest ih =>
    have hfirst := (action.identity_apply T r).trans (action.identity_taken r)
    simp only [run, acceptedNames]
    rw [ih, identityOf_apply, hfirst]
    cases action.names? r with
    | none => simp
    | some names => simp

/-! ## What is sent under an identity -/

/-- A record that is held has the guid of the recorder or none. -/
def Marked (r : Recorder σ) : Prop :=
  ∀ kind : RecordKind, ∀ record ∈ (kind.held r).items,
    kind.runtimeGuid record = "" ∨ kind.runtimeGuid record = r.guid

theorem Action.runtimeGuid_of_record (action : Action) (r : Recorder σ) (kind : RecordKind)
    (record : kind.Record) (hrecord : action.record? r kind = some record) :
    kind.runtimeGuid record = r.guid := by
  cases action with
  | log clock entry =>
    cases kind with
    | log =>
      simp only [record?, Option.ite_none_right_eq_some] at hrecord
      obtain ⟨_, hmade⟩ := hrecord
      cases hmade
      rfl
    | span => cases hrecord
  | finishSpan clock data =>
    cases kind with
    | log => cases hrecord
    | span =>
      simp only [record?, Option.ite_none_right_eq_some] at hrecord
      obtain ⟨_, hmade⟩ := hrecord
      cases hmade
      rfl
  | setIdentity groupName accessToken => cases hrecord
  | flush now => cases hrecord
  | shutdown now => cases hrecord
  | disable => cases hrecord

theorem Action.marked_taken (action : Action) (r : Recorder σ) (hmarked : r.Marked) :
    (action.taken r).Marked := by
  have htaking := action.taking r
  generalize action.taken r = recorded at htaking ⊢
  intro kind held hheld
  cases htaking with
  | nothing _ => exact hmarked kind held hheld
  | log record hlog _ =>
    cases kind with
    | log =>
      rcases Buffer.mem_push _ _ _ _ hheld with hold | rfl
      · exact hmarked .log held hold
      · exact Or.inr (action.runtimeGuid_of_record r .log held hlog)
    | span => exact hmarked .span held hheld
  | span record _ hspan =>
    cases kind with
    | log => exact hmarked .log held hheld
    | span =>
      rcases Buffer.mem_push _ _ _ _ hheld with hold | rfl
      · exact hmarked .span held hold
      · exact Or.inr (action.runtimeGuid_of_record r .span held hspan)
  | identity _ _ identity _ hunknown _ =>
    -- Nothing that is held yet can have another guid than none.
    have hguid : r.guid = "" := by
      unfold guid
      rw [hunknown]
    left
    rcases hmarked kind held hheld with hempty | hsame
    · exact hempty
    · exact hsame.trans hguid
  | flag _ => exact hmarked kind held hheld
  | off _ _ =>
    cases kind with
    | log => cases hheld
    | span => cases hheld

end Recorder

/-- The delivery and every record that it carries name this identity. -/
structure Delivery.Under (delivery : Delivery) (identity : Identity) : Prop where
  auth : delivery.auth = ⟨identity.accessToken⟩
  origin : delivery.report.origin = ⟨identity.guid, identity.startMicros, identity.groupName⟩
  records : ∀ kind : RecordKind, ∀ record ∈ kind.carried delivery.report,
    kind.runtimeGuid record = identity.guid

namespace Recorder

variable {σ : Type}

theorem runtimeGuid_of_stamped (kind : RecordKind) (r : Recorder σ) (identity : Identity)
    (hidentity : r.identity = some identity) (hmarked : r.Marked) :
    ∀ record ∈ (kind.held r).items.map (kind.stamp identity.guid),
      kind.runtimeGuid record = identity.guid := by
  intro record hmember
  obtain ⟨held, hheld, rfl⟩ := List.mem_map.mp hmember
  apply kind.runtimeGuid_stamp
  rw [← guid_of_identity hidentity]
  exact hmarked kind held hheld

theorem Action.under_apply (action : Action) (T : Transport σ) (r : Recorder σ)
    (hmarked : r.Marked) :
    (action.apply T r).next.Marked ∧ ∀ delivery ∈ (action.apply T r).trace.deliveries,
      ∃ identity, (action.apply T r).next.identity = some identity ∧ delivery.Under identity := by
  have htaken := action.marked_taken r hmarked
  have hidentity := action.identity_apply T r
  refine ⟨?_, ?_⟩
  · intro kind record hmember
    unfold guid
    rw [hidentity]
    rcases kind.apply_cases action T r with
      ⟨_, hheld, _⟩ | ⟨identity, delivery, hknown, _, houtcome⟩
    · rw [hheld] at hmember
      exact htaken kind record hmember
    · rw [hidentity] at hknown
      rcases houtcome with ⟨_, _, _, hheld, _⟩ | ⟨_, hheld, _⟩
      · rw [hheld] at hmember
        cases hmember
      · rw [hheld] at hmember
        rw [hknown]
        exact Or.inr (runtimeGuid_of_stamped kind _ identity hknown htaken record hmember)
  · rcases action.apply_outcome T r with
      ⟨hsilent, _⟩ | ⟨identity, now, carrier, hready, hsent, _⟩
    · rw [hsilent]
      exact fun _ hmember => absurd hmember List.not_mem_nil
    · intro delivery hmember
      rw [hsent, List.mem_singleton] at hmember
      subst hmember
      refine ⟨identity, hidentity.trans hready.identified, rfl, rfl, ?_⟩
      intro kind record hrecord
      change record ∈ kind.carried ((action.taken r).batch identity now) at hrecord
      rw [kind.carried_batch (action.taken r) identity now] at hrecord
      exact runtimeGuid_of_stamped kind _ identity hready.identified htaken record hrecord

/-- What a run sends, it sends under the identity that it ends with, which is the one
that was known at each sending. -/
theorem under_run (T : Transport σ) (r : Recorder σ) (actions : List Action)
    (hmarked : r.Marked) : ∀ delivery ∈ (run T r actions).trace.deliveries,
      ∃ identity, (run T r actions).next.identity = some identity ∧
        delivery.Under identity := by
  induction actions generalizing r with
  | nil => exact fun _ hmember => absurd hmember List.not_mem_nil
  | cons action rest ih =>
    obtain ⟨hnext, hfirst⟩ := action.under_apply T r hmarked
    intro delivery hmember
    simp only [run, Trace.deliveries_append, List.mem_append] at hmember
    rcases hmember with hnow | hlater
    · obtain ⟨identity, hidentity, hunder⟩ := hfirst delivery hnow
      exact ⟨identity, identity_run T (action.apply T r).next rest identity hidentity, hunder⟩
    · exact ih (action.apply T r).next hnext delivery hlater

theorem create_identity (T : Transport σ) (carrier : σ) (options : Options)
    (processId : UInt32) (draws : List UInt64) (now : Int) (turn : Turn σ)
    (hcreate : create T carrier options processId draws now = .ok turn) :
    turn.next.processId = processId ∧ turn.next.startMicros = now ∧
      turn.next.identity = options.identity?.map turn.next.identityOf := by
  unfold create at hcreate
  obtain ⟨_, _, hcreate⟩ := ok_of_bind_ok hcreate
  cases hnames : options.identity? with
  | none =>
    rw [hnames] at hcreate
    cases hcreate
    exact ⟨rfl, rfl, rfl⟩
  | some names =>
    rw [hnames] at hcreate
    obtain ⟨identity, hderived, hcreate⟩ := ok_of_bind_ok hcreate
    cases hcreate
    refine ⟨rfl, rfl, ?_⟩
    rw [(Identity.ofProcess_ok hderived).2]
    rfl

/-- The names that a recorder goes by: those of the options, or else the first ones
that a call has set. -/
def firstNames (T : Transport σ) (options : Options) (r : Recorder σ) (actions : List Action) :
    Option (String × String) :=
  options.identity?.or (acceptedNames T r actions).head?

/-- At every point of a run the recorder has the identity of its first names, if it has
been given any. -/
theorem identity_of_firstNames (T : Transport σ) (carrier : σ) (options : Options)
    (processId : UInt32) (draws : List UInt64) (now : Int) (turn : Turn σ)
    (hcreate : create T carrier options processId draws now = .ok turn)
    (actions : List Action) :
    (run T turn.next actions).next.identity =
      (firstNames T options turn.next actions).map turn.next.identityOf := by
  have hidentity := (create_identity T carrier options processId draws now turn hcreate).2.2
  rw [identity_of_run, hidentity]
  unfold firstNames
  cases options.identity? with
  | none => rfl
  | some names => rfl

theorem marked_of_fresh {r : Recorder σ} {options : Options} {now : Int}
    (hfresh : r.Fresh options now) : r.Marked := by
  intro kind record hmember
  rw [(kind.held_of_fresh hfresh).1] at hmember
  cases hmember

/-- A recorder has one identity for good, however often and in whatever order it is
told who it is. It is that of the first names that were accepted; from then on only
the same names are accepted again, and a refusal changes nothing. All that is ever
sent names this identity in its token, in its origin and in every record, with a guid
that is not empty, and nothing is sent before there is one. -/
theorem one_identity (T : Transport σ) (carrier : σ) (options : Options)
    (processId : UInt32) (draws : List UInt64) (now : Int) (turn : Turn σ)
    (hcreate : create T carrier options processId draws now = .ok turn)
    (actions : List Action) :
    let last := run T turn.next actions
    let names := firstNames T options turn.next actions
    (∀ groupName accessToken,
      ((∃ after, last.next.setIdentity groupName accessToken = .ok after) ↔
        (groupName ≠ "" ∧ accessToken ≠ "") ∧
          (names = none ∨ names = some (groupName, accessToken))) ∧
      ((∀ after, last.next.setIdentity groupName accessToken ≠ .ok after) →
        (Action.setIdentity groupName accessToken).apply T last.next = ⟨last.next, []⟩)) ∧
    (∀ delivery ∈ last.trace.deliveries, ∃ groupName accessToken,
      names = some (groupName, accessToken) ∧
      let guid := Identity.deriveGuid processId accessToken groupName
      guid ≠ "" ∧
      delivery.auth = ⟨accessToken⟩ ∧ delivery.report.origin = ⟨guid, now, groupName⟩ ∧
      (∀ record ∈ delivery.report.logRecords, record.runtimeGuid = guid) ∧
      ∀ record ∈ delivery.report.spanRecords, record.runtimeGuid = guid) ∧
    ∀ before after, actions = before ++ after → firstNames T options turn.next before = none →
      (run T turn.next before).trace.deliveries = [] := by
  intro last names
  have hmarked := marked_of_fresh (create_fresh T carrier options processId draws now turn hcreate)
  obtain ⟨hprocess, hstart, _⟩ :=
    create_identity T carrier options processId draws now turn hcreate
  have hknown := identity_of_firstNames T carrier options processId draws now turn hcreate
  have hnames : last.next.names? = names := by
    unfold Recorder.names?
    rw [hknown actions, Option.map_map]
    exact Option.map_id'
  refine ⟨?_, ?_, ?_⟩
  · intro groupName accessToken
    refine ⟨?_, ?_⟩
    · rw [setIdentity_ok_iff, hnames]
    · intro hrefused
      simp only [Action.apply]
      cases hset : last.next.setIdentity groupName accessToken with
      | ok after => exact absurd hset (hrefused after)
      | error refusal => rfl
  · intro delivery hmember
    obtain ⟨identity, hlast, hunder⟩ := under_run T turn.next actions hmarked delivery hmember
    rw [hknown actions] at hlast
    obtain ⟨⟨groupName, accessToken⟩, hsome, hderived⟩ := Option.map_eq_some_iff.mp hlast
    subst hderived
    have hrecords := hunder.records
    have horigin := hunder.origin
    simp only [identityOf, hprocess, hstart] at hrecords horigin
    exact ⟨groupName, accessToken, hsome, Identity.deriveGuid_ne_empty _ _ _, hunder.auth,
      horigin, hrecords .log, hrecords .span⟩
  · intro before after _ hnone
    apply List.eq_nil_iff_forall_not_mem.mpr
    intro delivery hmember
    obtain ⟨identity, hlast, _⟩ := under_run T turn.next before hmarked delivery hmember
    rw [hknown before, hnone] at hlast
    cases hlast

/-- A log and a flush before anyone is named, and names that are empty, new, other and
the same again, with a report that comes back in between. -/
def Outage.callers : List Action :=
  [.log (.all 1) { level := .info, message := "one" },
    .setIdentity "group" "",
    .flush 2,
    .setIdentity "group" "token",
    .log (.all 3) { level := .warn, message := "two" },
    .flush 4,
    .setIdentity "others" "token",
    .finishSpan (.all 5) { guid := "span", operation := "work", startMicros := 4 },
    .setIdentity "group" "token",
    .flush 6,
    .disable,
    .setIdentity "group" "other"]

/-- The same names are accepted twice, and both reports go out under them. -/
theorem one_identity_outage :
    ∃ turn, create Recording.transport Outage.carrier (Outage.options 2) 7 [] 0 = .ok turn ∧
      let last := run Recording.transport turn.next Outage.callers
      let names := firstNames Recording.transport (Outage.options 2) turn.next Outage.callers
      acceptedNames Recording.transport turn.next Outage.callers =
        [("group", "token"), ("group", "token")] ∧
      names = some ("group", "token") ∧
      (last.trace.deliveries.map fun delivery => delivery.report.logRecords.length) = [2, 2] ∧
      (∀ groupName accessToken,
        ((∃ after, last.next.setIdentity groupName accessToken = .ok after) ↔
          (groupName ≠ "" ∧ accessToken ≠ "") ∧
            (names = none ∨ names = some (groupName, accessToken))) ∧
        ((∀ after, last.next.setIdentity groupName accessToken ≠ .ok after) →
          (Action.setIdentity groupName accessToken).apply Recording.transport last.next =
            ⟨last.next, []⟩)) ∧
      (∀ delivery ∈ last.trace.deliveries, ∃ groupName accessToken,
        names = some (groupName, accessToken) ∧
        let guid := Identity.deriveGuid 7 accessToken groupName
        guid ≠ "" ∧
        delivery.auth = ⟨accessToken⟩ ∧ delivery.report.origin = ⟨guid, 0, groupName⟩ ∧
        (∀ record ∈ delivery.report.logRecords, record.runtimeGuid = guid) ∧
        ∀ record ∈ delivery.report.spanRecords, record.runtimeGuid = guid) ∧
      ∀ before after, Outage.callers = before ++ after →
        firstNames Recording.transport (Outage.options 2) turn.next before = none →
        (run Recording.transport turn.next before).trace.deliveries = [] :=
  ⟨_, rfl, by decide +kernel, by decide +kernel, by decide +kernel,
    one_identity Recording.transport Outage.carrier (Outage.options 2) 7 [] 0 _ rfl
      Outage.callers⟩

end Recorder

end Telemetry
