import Telemetry.Proofs.Conservation
import Telemetry.Proofs.Handles

/-!
What a finished span reports. Its record tells what the calls on its handle have said up
to then, and what is said later goes into the record of a later finish only.
-/

namespace Telemetry

/-- A record tells of a span with this guid what these calls have said. -/
structure SpanRecord.Tells (record : SpanRecord) (guid : String) (calls : List Span.Call) :
    Prop where
  guid : record.spanGuid = guid
  name : record.spanName = (Span.lastOperation calls).getD ""
  ordered : record.oldestMicros ≤ record.youngestMicros
  error : record.errorFlag = true ↔ .log .error ∈ calls ∨ .log .fatal ∈ calls
  joinIds_sorted : record.joinIds.Pairwise fun a b => a.traceKey < b.traceKey
  joinIds : ∀ key value, ⟨key, value⟩ ∈ record.joinIds ↔ Span.joinId calls key = some value
  attributes_sorted : record.attributes.Pairwise fun a b => a.key < b.key
  attributes : ∀ key value,
    ⟨key, value⟩ ∈ record.attributes ↔ Span.lastAttribute calls key = some value

theorem Span.any_isError_iff (calls : List Call) :
    calls.any Call.isError = true ↔ .log .error ∈ calls ∨ .log .fatal ∈ calls := by
  rw [List.any_eq_true]
  constructor
  · rintro ⟨call, hcall, herror⟩
    cases call with
    | log level =>
      cases level with
      | error => exact Or.inl hcall
      | fatal => exact Or.inr hcall
      | _ => cases herror
    | _ => cases herror
  · rintro (herror | hfatal)
    · exact ⟨.log .error, herror, rfl⟩
    · exact ⟨.log .fatal, hfatal, rfl⟩

namespace SpanData

/-- A span that is finished tells what the calls since its start have said. -/
theorem tells_toRecord (guid runtimeGuid : String) (start now : Int) (calls : List Span.Call) :
    let data := after { guid, startMicros := start } calls
    SpanRecord.Tells ({ data with endMicros := max now data.startMicros }.toRecord runtimeGuid)
      guid calls := by
  intro data
  let fresh : SpanData := { guid, startMicros := start }
  have hordered : data.Ordered :=
    fresh.ordered_after calls ⟨Keyed.sorted_nil, Keyed.sorted_nil⟩
  refine ⟨fresh.guid_after calls, fresh.operation_after calls, le_max_right _ _, ?_, ?_, ?_, ?_,
    ?_⟩
  · have hflag : data.errorFlag = calls.any Span.Call.isError :=
      (fresh.errorFlag_after calls).trans (Bool.false_or _)
    rw [← Span.any_isError_iff, ← hflag]
    rfl
  · exact List.pairwise_map.mpr hordered.1
  · intro key value
    have hvalue : data.joinIds.get? key = Span.joinId calls key := fresh.joinId_after calls key
    rw [← hvalue, ← Keyed.mem_iff_get? data.joinIds hordered.1]
    simp [toRecord]
  · exact List.pairwise_map.mpr hordered.2
  · intro key value
    have hvalue : data.attributes.get? key = Span.lastAttribute calls key :=
      (fresh.attribute_after calls key).trans Option.or_none
    rw [← hvalue, ← Keyed.mem_iff_get? data.attributes hordered.2]
    simp [toRecord]

end SpanData

namespace Session

variable {σ : Type}

namespace Lifetime

theorem recorder_session (life : Lifetime σ) (T : Transport σ) :
    (life.session T).recorder =
      ((life.born T).recorder.run T ((life.born T).holdActions T life.holds)).next :=
  ((life.born T).runHolds_follows T life.holds).1

theorem actions_finishSpan (life : Lifetime σ) (T : Transport σ) (clock : Clock)
    (hheld : life.held T = true) :
    (Hold.whole clock (.finishSpan life.index)).actions T (life.session T) =
      [.finishSpan clock.first (life.data T)] := by
  simp [Hold.actions, actions, onLive, life.span?_session T hheld]

end Lifetime

/-- A finish that is accepted submits one record, and it tells what the calls on the handle
have said. Every record that is held or was sent since the span was started is one that
was held before or accepted since, as it was then but for the guid of the runtime. -/
theorem finish_tells (T : Transport σ) (life : Lifetime σ) (clock : Clock)
    (hheld : life.held T = true)
    (henabled : (life.session T).recorder.enabled = true) :
    let start := (life.born T).recorder
    let before := (life.born T).holdActions T life.holds
    let finished := (life.born T).holdActions T
      (life.holds ++ [.whole clock (.finishSpan life.index)])
    ∃ record : RecordKind.span.Record, SpanRecord.Tells record life.guid (life.calls T) ∧
      RecordKind.span.accepted T start finished =
        RecordKind.span.accepted T start before ++ [record] ∧
      RecordKind.log.accepted T start finished = RecordKind.log.accepted T start before ∧
      ∀ seen, RecordKind.span.Seen (start.run T finished) seen →
        ∃ original ∈ (RecordKind.span.held start).items ++
            RecordKind.span.accepted T start finished,
          RecordKind.span.Stamped (start.run T finished).next.guid original seen := by
  intro start before finished
  let finish := Recorder.Action.finishSpan clock.first (life.data T)
  have hfinished : finished = before ++ [finish] := by
    simp only [finished, holdActions_append, holdActions, List.append_nil]
    exact congrArg (before ++ ·) (life.actions_finishSpan T clock hheld)
  have hlast : (life.session T).recorder = (start.run T before).next := life.recorder_session T
  rw [hlast] at henabled
  have hspans := Recorder.Action.record?_finishSpan (start.run T before).next clock.first
    (life.data T) henabled
  refine ⟨_, SpanData.tells_toRecord life.guid (start.run T before).next.guid
    life.clock.first.stamp clock.first.stamp (life.calls T), ?_, ?_, ?_⟩
  · rw [hfinished, RecordKind.accepted_append]
    simp only [RecordKind.accepted, finish, hspans, List.append_nil]
    rfl
  · rw [hfinished, RecordKind.accepted_append]
    simp only [RecordKind.accepted, finish, Recorder.Action.record?, Option.toList_none,
      List.append_nil]
  · intro seen hseen
    exact RecordKind.span.seen_run _ T start finished seen
      (fun identity hidentity => (Recorder.guid_of_identity hidentity).symm) hseen

/-- Two parents that have a join id in common; the second one is finished. -/
def Family.parents : List Hold :=
  [.whole (.all 1) (.startSpan "first"),
    .whole (.all 2) (.addJoinId 0 "order" "1"),
    .whole (.all 3) (.setEndUserId 0 "ann"),
    .whole (.all 4) (.startSpan "second"),
    .whole (.all 5) (.addJoinId 1 "order" "2"),
    .whole (.all 6) (.addJoinId 1 "shop" "3"),
    .whole (.all 7) (.finishSpan 1)]

/-- The child has its own user before it has a parent, and its own shop afterwards. What the
first parent learns later comes too late, and so does the error for the first finish. -/
def Family.child (origin : Session Recording) (recorded : origin.recorder.enabled = true) :
    Lifetime Recording where
  origin
  clock := .all 8
  guid := "child"
  holds :=
    [.whole (.all 9) (.setEndUserId 2 "bob"),
      .whole (.all 10) (.setParent 2 0),
      .whole (.all 11) (.addJoinId 0 "shop" "4"),
      .whole (.all 12) (.setParent 2 1),
      .whole (.all 13) (.setOperation 2 "load"),
      .whole (.all 5) (.finishSpan 2),
      .whole (.all 15) (.addJoinId 2 "shop" "5"),
      .whole (.all 16) (.spanLog 2 .fatal "failed" none),
      .whole (.all 17) (.setOperation 2 "store")]
  recorded

theorem finish_tells_family :
    ∃ turn, Recorder.create Recording.transport {} {} 7 [] 0 = .ok turn ∧ ∃ recorded,
      let life := Family.child
        (runHolds Recording.transport ⟨turn.next, []⟩ Family.parents).1 recorded
      let start := (life.born Recording.transport).recorder
      let before := (life.born Recording.transport).holdActions Recording.transport life.holds
      let finished := (life.born Recording.transport).holdActions Recording.transport
        (life.holds ++ [.whole (.all 18) (.finishSpan life.index)])
      (start.run Recording.transport finished).next.spans.items.tail =
        [⟨"", "child", "load", 8, 8,
            [⟨"end_user_id", "bob"⟩, ⟨"order", "1"⟩, ⟨"shop", "3"⟩],
            [⟨"parent_span_guid", "second"⟩], false⟩,
          ⟨"", "child", "store", 8, 18,
            [⟨"end_user_id", "bob"⟩, ⟨"order", "1"⟩, ⟨"shop", "5"⟩],
            [⟨"parent_span_guid", "second"⟩], true⟩] ∧
      ∃ record : RecordKind.span.Record,
        SpanRecord.Tells record life.guid (life.calls Recording.transport) ∧
        RecordKind.span.accepted Recording.transport start finished =
          RecordKind.span.accepted Recording.transport start before ++ [record] ∧
        RecordKind.log.accepted Recording.transport start finished =
          RecordKind.log.accepted Recording.transport start before ∧
        ∀ seen, RecordKind.span.Seen (start.run Recording.transport finished) seen →
          ∃ original ∈ (RecordKind.span.held start).items ++
              RecordKind.span.accepted Recording.transport start finished,
            RecordKind.span.Stamped (start.run Recording.transport finished).next.guid original
              seen :=
  ⟨_, rfl, by decide +kernel, by decide +kernel,
    finish_tells Recording.transport (Family.child _ _) (.all 18) (by decide +kernel)
      (by decide +kernel)⟩

end Session

end Telemetry
