import Telemetry.Proofs.Identity
import Telemetry.Proofs.Session
import Telemetry.Shared

/-!
The recorder of a process over any calls, one after the other. The first call that brings
what a recorder needs makes it, and it is the only one that is ever published: what the
slot holds later is that recorder after the uses that were made of it, the shutdown among
them. Until then the slot stays empty, whatever was asked for.
-/

namespace Telemetry

namespace Shared

variable {σ : Type}

/-- What a call for the recorder brings. -/
structure Request (σ : Type) where
  founding : Founding σ
  groupName : String
  accessToken : String
  options : Options

/-- A call on the slot, or one on the recorder that it holds. -/
inductive Call (σ : Type)
  | publish (request : Request σ)
  | getOrPublish (request : Request σ)
  | look
  | shutdown (now : Int)
  | use (action : Recorder.Action)

namespace Request

/-- The carrier that the options ask for, under the names of the request. -/
def carrier? (request : Request σ) : Except String σ :=
  request.founding.carrier (request.options.withIdentity request.groupName request.accessToken)

/-- Both names are given, the options are some that a recorder can work with, and this is
the carrier for them. -/
structure ValidWith (request : Request σ) (carrier : σ) : Prop where
  names : request.groupName ≠ "" ∧ request.accessToken ≠ ""
  options : request.options.validate = .ok ()
  carried : request.carrier? = .ok carrier

def IsValid (request : Request σ) : Prop :=
  ∃ carrier, request.ValidWith carrier

/-- Why a request that is not valid is refused: the names are looked at first, and the
carrier last. -/
def RefusedFor (request : Request σ) (error : ConfigError) : Prop :=
  if request.accessToken = "" then error = .emptyAccessToken
  else if request.groupName = "" then error = .emptyGroupName
  else request.options.validate = .error error ∨
    request.options.validate = .ok () ∧
      ∃ reason, request.carrier? = .error reason ∧ error = .tls reason

/-- The recorder that is made for a request, under the names of the request. -/
def recorder (request : Request σ) (carrier : σ) : Recorder σ where
  identity := some {
    accessToken := request.accessToken
    groupName := request.groupName
    guid := Identity.deriveGuid request.founding.processId request.accessToken request.groupName
    startMicros := request.founding.now }
  startMicros := request.founding.now
  logs := .empty request.options.maxLogRecords
  spans := .empty request.options.maxSpanRecords
  reportStartMicros := request.founding.now
  nextFlushMicros :=
    Recorder.laterBy request.founding.now request.options.reportingPeriod.micros
  periodMicros := request.options.reportingPeriod.micros
  carrier
  draws := request.founding.draws
  processId := request.founding.processId
  maxPayloadDepth := request.options.maxPayloadDepth
  guarantee := request.options.delivery
  debug := request.options.debug

def build (request : Request σ) (T : Transport σ) : Except ConfigError (Recorder.Turn σ) :=
  Shared.build T request.founding request.groupName request.accessToken request.options

def publish (request : Request σ) (T : Transport σ) (s : Shared σ) :
    Except ConfigError (Recorder σ) × Shared σ :=
  s.publish T request.founding request.groupName request.accessToken request.options

def getOrPublish (request : Request σ) (T : Transport σ) (s : Shared σ) :
    Except ConfigError (Recorder σ) × Shared σ :=
  s.getOrPublish T request.founding request.groupName request.accessToken request.options

end Request

namespace Call

def request? : Call σ → Option (Request σ)
  | .publish request | .getOrPublish request => some request
  | .look | .shutdown _ | .use _ => none

/-- What a call does with the recorder that the slot holds. -/
def actions : Call σ → List Recorder.Action
  | .publish _ | .getOrPublish _ | .look => []
  | .shutdown now => [.shutdown now]
  | .use action => [action]

def apply (call : Call σ) (T : Transport σ) (s : Shared σ) : Shared σ :=
  match call with
  | .publish request => (request.publish T s).2
  | .getOrPublish request => (request.getOrPublish T s).2
  | .look => s
  | .shutdown now => (s.shutdown T now).1
  | .use action => (s.update (action.apply T)).1

end Call

/-- The slot after the calls. -/
def after (T : Transport σ) (s : Shared σ) : List (Call σ) → Shared σ
  | [] => s
  | call :: calls => after T (call.apply T s) calls

/-- None of the calls brings what a recorder needs. -/
def NoneValid (calls : List (Call σ)) : Prop :=
  ∀ call ∈ calls, ∀ request, call.request? = some request → ¬ request.IsValid

/-! ## Making a recorder -/

namespace Request

variable {request : Request σ}

theorem build_of_valid {carrier : σ} (hvalid : request.ValidWith carrier) (T : Transport σ) :
    ∃ trace, request.build T = .ok ⟨request.recorder carrier, trace⟩ := by
  obtain ⟨hnames, hoptions, hcarried⟩ := hvalid
  have hvalidate := (Identity.validate_ok_iff _ _).mpr hnames
  have hwith : (request.options.withIdentity request.groupName request.accessToken).validate =
      .ok () := hoptions
  unfold carrier? at hcarried
  unfold build Shared.build Recorder.create Identity.ofProcess
  rw [hvalidate]
  dsimp only [bind, Except.bind]
  rw [hwith, hcarried]
  dsimp only [Except.mapError, Options.identity?, Options.withIdentity]
  rw [hvalidate]
  exact ⟨_, rfl⟩

theorem build_of_invalid (hinvalid : ¬ request.IsValid) (T : Transport σ) :
    ∃ error, request.build T = .error error ∧ request.RefusedFor error := by
  unfold build Shared.build Identity.validate
  by_cases htoken : request.accessToken = ""
  · refine ⟨.emptyAccessToken, by rw [if_pos htoken]; rfl, ?_⟩
    rw [RefusedFor, if_pos htoken]
  · by_cases hgroup : request.groupName = ""
    · refine ⟨.emptyGroupName, by rw [if_neg htoken, if_pos hgroup]; rfl, ?_⟩
      rw [RefusedFor, if_neg htoken, if_pos hgroup]
    · have hwith : (request.options.withIdentity request.groupName request.accessToken).validate =
          request.options.validate := rfl
      unfold RefusedFor
      simp only [if_neg htoken, if_neg hgroup]
      dsimp only [bind, Except.bind]
      rw [hwith]
      cases hoptions : request.options.validate with
      | error error => exact ⟨error, rfl, Or.inl rfl⟩
      | ok _ =>
        cases hcarried : request.carrier? with
        | ok carrier => exact absurd ⟨carrier, ⟨hgroup, htoken⟩, hoptions, hcarried⟩ hinvalid
        | error reason =>
          unfold carrier? at hcarried
          rw [hcarried]
          exact ⟨.tls reason, rfl, Or.inr ⟨rfl, reason, rfl, rfl⟩⟩

/-- A recorder is never refused because there is one. -/
theorem RefusedFor.ne_alreadyInitialized {error : ConfigError}
    (hrefused : request.RefusedFor error) : error ≠ .alreadyInitialized := by
  rintro rfl
  unfold RefusedFor at hrefused
  split at hrefused
  · cases hrefused
  · split at hrefused
    · cases hrefused
    · rcases hrefused with hoptions | ⟨_, _, _, htls⟩
      · unfold Options.validate at hoptions
        split at hoptions
        · cases hoptions
        · split at hoptions
          · cases hoptions
          · split at hoptions
            · cases hoptions
            · cases hoptions
      · cases htls

/-! ## One call -/

variable {T : Transport σ} {s : Shared σ}

theorem publish_taken {recorder : Recorder σ} (hpublished : s.published = some recorder) :
    request.publish T s = (.error .alreadyInitialized, s) := by
  unfold publish Shared.publish
  rw [hpublished]

theorem getOrPublish_taken {recorder : Recorder σ} (hpublished : s.published = some recorder) :
    request.getOrPublish T s = (.ok recorder, s) := by
  unfold getOrPublish Shared.getOrPublish
  rw [hpublished]

theorem getOrPublish_empty (hpublished : s.published = none) :
    request.getOrPublish T s = request.publish T s := by
  unfold getOrPublish Shared.getOrPublish
  rw [hpublished]
  rfl

theorem publish_valid {carrier : σ} (hpublished : s.published = none)
    (hvalid : request.ValidWith carrier) :
    request.publish T s = (.ok (request.recorder carrier), ⟨some (request.recorder carrier)⟩) := by
  obtain ⟨trace, hbuild⟩ := request.build_of_valid hvalid T
  unfold build at hbuild
  unfold publish Shared.publish
  rw [hpublished, hbuild]

theorem publish_invalid (hpublished : s.published = none) (hinvalid : ¬ request.IsValid) :
    ∃ error, request.RefusedFor error ∧ request.publish T s = (.error error, s) := by
  obtain ⟨error, hbuild, hrefused⟩ := request.build_of_invalid hinvalid T
  unfold build at hbuild
  refine ⟨error, hrefused, ?_⟩
  unfold publish Shared.publish
  rw [hpublished, hbuild]

end Request

/-- On a recorder that is published a call does its own actions and nothing else. -/
theorem Call.apply_taken (call : Call σ) (T : Transport σ) (recorder : Recorder σ) :
    call.apply T ⟨some recorder⟩ = ⟨some (Recorder.run T recorder call.actions).next⟩ := by
  cases call with
  | publish request => exact congrArg Prod.snd (Request.publish_taken rfl)
  | getOrPublish request => exact congrArg Prod.snd (Request.getOrPublish_taken rfl)
  | look => rfl
  | shutdown now => rfl
  | use action => rfl

/-- A call on the empty slot fills it if it brings what a recorder needs. -/
theorem Call.apply_empty (call : Call σ) (T : Transport σ) :
    (∃ request carrier, call.request? = some request ∧ request.ValidWith carrier ∧
      call.apply T {} = ⟨some (request.recorder carrier)⟩) ∨
    (∀ request, call.request? = some request → ¬ request.IsValid) ∧ call.apply T {} = {} := by
  cases hrequest : call.request? with
  | none =>
    refine Or.inr ⟨fun _ hsome => (nomatch hsome), ?_⟩
    cases call with
    | publish request => cases hrequest
    | getOrPublish request => cases hrequest
    | look => rfl
    | shutdown now => rfl
    | use action => rfl
  | some request =>
    have happly : call.apply T {} = (request.publish T {}).2 := by
      cases call with
      | publish own =>
        cases hrequest
        rfl
      | getOrPublish own =>
        cases hrequest
        exact congrArg Prod.snd (Request.getOrPublish_empty rfl)
      | look => cases hrequest
      | shutdown now => cases hrequest
      | use action => cases hrequest
    by_cases hvalid : request.IsValid
    · obtain ⟨carrier, hvalid⟩ := hvalid
      refine Or.inl ⟨request, carrier, rfl, hvalid, ?_⟩
      rw [happly, Request.publish_valid rfl hvalid]
    · obtain ⟨_, _, hpublish⟩ := request.publish_invalid (T := T) (s := {}) rfl hvalid
      refine Or.inr ⟨?_, ?_⟩
      · intro own hown
        cases hown
        exact hvalid
      · rw [happly, hpublish]

/-! ## Runs of calls -/

theorem after_append (T : Transport σ) (s : Shared σ) (first later : List (Call σ)) :
    after T s (first ++ later) = after T (after T s first) later := by
  induction first generalizing s with
  | nil => rfl
  | cons call rest ih => exact ih (call.apply T s)

/-- A recorder that is published stays so, and all that happens to it is its own uses. -/
theorem after_taken (T : Transport σ) (recorder : Recorder σ) (calls : List (Call σ)) :
    after T ⟨some recorder⟩ calls =
      ⟨some (Recorder.run T recorder (calls.flatMap Call.actions)).next⟩ := by
  induction calls generalizing recorder with
  | nil => rfl
  | cons call rest ih =>
    rw [after, call.apply_taken, ih, List.flatMap_cons, Recorder.run_append]

/-- The first of the calls that brings what a recorder needs, with what came before it
and what came after it. -/
structure Foundation (calls : List (Call σ)) where
  earlier : List (Call σ)
  call : Call σ
  request : Request σ
  carrier : σ
  later : List (Call σ)
  calls_eq : calls = earlier ++ call :: later
  noneEarlier : NoneValid earlier
  brings : call.request? = some request
  valid : request.ValidWith carrier

/-- The recorder that its request makes. -/
def Foundation.first {calls : List (Call σ)} (foundation : Foundation calls) : Recorder σ :=
  foundation.request.recorder foundation.carrier

/-- The recorder that is published in the end. -/
def Foundation.recorder {calls : List (Call σ)} (foundation : Foundation calls)
    (T : Transport σ) : Recorder σ :=
  (Recorder.run T foundation.first (foundation.later.flatMap Call.actions)).next

theorem NoneValid.cons {call : Call σ} {calls : List (Call σ)}
    (hcall : ∀ request, call.request? = some request → ¬ request.IsValid)
    (hcalls : NoneValid calls) : NoneValid (call :: calls) := by
  intro own hmember
  rcases List.mem_cons.mp hmember with rfl | hlater
  · exact hcall
  · exact hcalls own hlater

/-- Either no call could have filled the slot and it is still empty, or the first one
that could did so. -/
theorem after_cases (T : Transport σ) (calls : List (Call σ)) :
    NoneValid calls ∧ after T {} calls = {} ∨
    ∃ foundation : Foundation calls, after T {} calls = ⟨some (foundation.recorder T)⟩ := by
  induction calls with
  | nil => exact Or.inl ⟨fun _ hmember => (nomatch hmember), rfl⟩
  | cons call rest ih =>
    rcases call.apply_empty T with ⟨request, carrier, hbrings, hvalid, hfilled⟩ | ⟨hnone, hempty⟩
    · have hnothing : NoneValid ([] : List (Call σ)) := fun _ hmember => (nomatch hmember)
      refine Or.inr ⟨⟨[], call, request, carrier, rest, rfl, hnothing, hbrings, hvalid⟩, ?_⟩
      rw [after, hfilled, after_taken]
      rfl
    · rcases ih with ⟨hrest, hstill⟩ | ⟨foundation, hfounded⟩
      · refine Or.inl ⟨hrest.cons hnone, ?_⟩
        rw [after, hempty, hstill]
      · obtain ⟨earlier, founder, request, carrier, later, rfl, hearlier, hbrings, hvalid⟩ :=
          foundation
        refine Or.inr ⟨⟨call :: earlier, founder, request, carrier, later, rfl,
          hearlier.cons hnone, hbrings, hvalid⟩, ?_⟩
        rw [after, hempty, hfounded]
        rfl

theorem Foundation.not_noneValid {calls : List (Call σ)} (foundation : Foundation calls) :
    ¬ NoneValid calls := by
  obtain ⟨earlier, call, request, carrier, later, rfl, _, hbrings, hvalid⟩ := foundation
  intro hnone
  exact hnone call (List.mem_append_right _ List.mem_cons_self) request hbrings ⟨carrier, hvalid⟩

/-- At most one recorder is ever published. The slot is empty as long as no call has
brought names and options that are valid and have a carrier; such a call is refused for
what it brought, and the next one is as good as the first. The first valid call makes the
recorder, under its own names and with its own options, and from then on the slot holds that
recorder, after whatever was done with it. Nobody publishes another one, and whoever asks for
the recorder gets that one, with any names and options and also after it was shut down. -/
theorem one_recorder (T : Transport σ) (calls : List (Call σ)) :
    let s := after T {} calls
    (s.published = none ↔ NoneValid calls) ∧
    (∀ recorder, s.published = some recorder →
      (∃ foundation : Foundation calls, recorder = foundation.recorder T ∧
        recorder.identity = foundation.first.identity ∧
        recorder.settings = foundation.first.settings) ∧
      ∀ more, after T {} (calls ++ more) =
        ⟨some (Recorder.run T recorder (more.flatMap Call.actions)).next⟩) ∧
    ∀ request : Request σ,
      (∀ carrier, s.published = none → request.ValidWith carrier →
        let recorder := request.recorder carrier
        request.publish T s = (.ok recorder, ⟨some recorder⟩) ∧
        request.getOrPublish T s = (.ok recorder, ⟨some recorder⟩)) ∧
      (s.published = none → ¬ request.IsValid → ∃ error,
        request.RefusedFor error ∧ error ≠ .alreadyInitialized ∧
        request.publish T s = (.error error, {}) ∧
        request.getOrPublish T s = (.error error, {})) ∧
      ∀ recorder, s.published = some recorder →
        request.publish T s = (.error .alreadyInitialized, s) ∧
        request.getOrPublish T s = (.ok recorder, s) := by
  intro s
  refine ⟨?_, ?_, ?_⟩
  · rcases after_cases T calls with ⟨hnone, hempty⟩ | ⟨foundation, hfounded⟩
    · exact ⟨fun _ => hnone, fun _ => congrArg published hempty⟩
    · refine ⟨fun hempty => ?_, fun hnone => absurd hnone foundation.not_noneValid⟩
      rw [show s = _ from hfounded] at hempty
      cases hempty
  · intro recorder hpublished
    have hs : s = ⟨some recorder⟩ := congrArg Shared.mk hpublished
    refine ⟨?_, ?_⟩
    · rcases after_cases T calls with ⟨_, hempty⟩ | ⟨foundation, hfounded⟩
      · rw [show s = _ from hempty] at hpublished
        cases hpublished
      · rw [show s = _ from hfounded] at hpublished
        cases hpublished
        exact ⟨foundation, rfl, Recorder.identity_run T _ _ _ rfl, Recorder.settings_run T _ _⟩
    · intro more
      rw [after_append, show after T {} calls = _ from hs, after_taken]
  · intro request
    refine ⟨?_, ?_, ?_⟩
    · intro carrier hempty hvalid
      have hpublish := Request.publish_valid (T := T) hempty hvalid
      exact ⟨hpublish, (Request.getOrPublish_empty hempty).trans hpublish⟩
    · intro hempty hinvalid
      have hs : s = {} := congrArg Shared.mk hempty
      obtain ⟨error, hrefused, hpublish⟩ := Request.publish_invalid (T := T) hempty hinvalid
      rw [hs] at hpublish ⊢
      exact ⟨error, hrefused, hrefused.ne_alreadyInitialized, hpublish,
        (Request.getOrPublish_empty rfl).trans hpublish⟩
    · intro recorder hpublished
      exact ⟨Request.publish_taken hpublished, Request.getOrPublish_taken hpublished⟩

/-- A refusal, a recorder that is made, and other names that come after its shutdown. -/
def lifecycle : List (Call Unit) :=
  let founding := ⟨fun _ => .ok (), 7, [], 0⟩
  [.publish ⟨founding, "", "token", {}⟩,
    .getOrPublish ⟨founding, "group", "token", {}⟩,
    .shutdown 1,
    .publish ⟨founding, "others", "token", {}⟩,
    .getOrPublish ⟨founding, "others", "token", {}⟩]

example :
    let names (calls : List (Call Unit)) :=
      (after Transport.null {} calls).published.map (·.names?)
    names (lifecycle.take 1) = none ∧ names (lifecycle.take 2) = some (some ("group", "token")) ∧
      names lifecycle = some (some ("group", "token")) := by
  decide +kernel

end Shared

end Telemetry
