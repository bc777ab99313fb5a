import Telemetry.Schema

/-!
The fields of everything that is sent, in the order of the formats. An optional
text may be left out of an object but not off the end of a list; an answer and a
command may leave out everything. Writer and reader of a call each have a list of its
fields; every other type has one for both.
-/

namespace Telemetry

/-- A field that has to be there. -/
abbrev Fields.always {α β δ : Type} (name : String) (shape : Schema α)
    (rest : Fields β δ) : Fields (α × β) (Option α × δ) :=
  .field name shape .required rest

/-- A field that is absent where its value would be none. -/
abbrev Fields.maybe {α β δ : Type} (name : String) (shape : Schema α)
    (rest : Fields β δ) : Fields (Option α × β) (Option (Option α) × δ) :=
  .field name (.optional shape) (.omittable none) rest

def Auth.schema : Schema Auth :=
  .record "Auth" (.always "access_token" .text .done)
    (fun a => (a.accessToken, ()))
    (fun (token, _) => ⟨token⟩)
    (fun _ => rfl) (fun _ => rfl)

def Origin.schema : Schema Origin :=
  .record "RuntimeInfo"
    (.always "guid" .text <| .always "start_micros" .integer <|
      .always "group_name" .text .done)
    (fun o => (o.guid, o.startMicros, o.groupName, ()))
    (fun (guid, start, group, _) => ⟨guid, start, group⟩)
    (fun _ => rfl) (fun _ => rfl)

def LogRecord.schema : Schema LogRecord :=
  .record "LogRecord"
    (.always "timestamp_micros" .integer <| .always "runtime_guid" .text <|
      .maybe "span_guid" .text <| .always "level" .level <|
      .always "error_flag" .flag <| .always "message" .text <|
      .maybe "payload_json" .text .done)
    (fun r => (r.timestampMicros, r.runtimeGuid, r.spanGuid, r.level, r.errorFlag,
      r.message, r.payloadJson, ()))
    (fun (time, runtime, span, level, error, message, payload, _) =>
      ⟨time, runtime, span, level, error, message, payload⟩)
    (fun _ => rfl) (fun _ => rfl)

def JoinId.schema : Schema JoinId :=
  .record "TraceJoinId" (.always "trace_key" .text <| .always "value" .text .done)
    (fun j => (j.traceKey, j.value, ()))
    (fun (key, value, _) => ⟨key, value⟩)
    (fun _ => rfl) (fun _ => rfl)

def Attribute.schema : Schema Attribute :=
  .record "KeyValue" (.always "key" .text <| .always "value" .text .done)
    (fun a => (a.key, a.value, ()))
    (fun (key, value, _) => ⟨key, value⟩)
    (fun _ => rfl) (fun _ => rfl)

def SpanRecord.schema : Schema SpanRecord :=
  .record "SpanRecord"
    (.always "runtime_guid" .text <| .always "span_guid" .text <|
      .always "span_name" .text <| .always "oldest_micros" .integer <|
      .always "youngest_micros" .integer <| .always "join_ids" (.list JoinId.schema) <|
      .always "attributes" (.list Attribute.schema) <| .always "error_flag" .flag .done)
    (fun r => (r.runtimeGuid, r.spanGuid, r.spanName, r.oldestMicros, r.youngestMicros,
      r.joinIds, r.attributes, r.errorFlag, ()))
    (fun (runtime, span, name, oldest, youngest, joinIds, attributes, error, _) =>
      ⟨runtime, span, name, oldest, youngest, joinIds, attributes, error⟩)
    (fun _ => rfl) (fun _ => rfl)

def NamedCounter.schema : Schema NamedCounter :=
  .record "NamedCounter" (.always "name" .text <| .always "value" .integer .done)
    (fun c => (c.name, c.value, ()))
    (fun (name, value, _) => ⟨name, value⟩)
    (fun _ => rfl) (fun _ => rfl)

def Report.schema : Schema Report :=
  .record "ReportRequest"
    (.always "runtime" Origin.schema <| .always "oldest_micros" .integer <|
      .always "youngest_micros" .integer <|
      .always "log_records" (.list LogRecord.schema) <|
      .always "span_records" (.list SpanRecord.schema) <|
      .always "counters" (.list NamedCounter.schema) .done)
    (fun r => (r.origin, r.oldestMicros, r.youngestMicros, r.logRecords, r.spanRecords,
      r.counters, ()))
    (fun (origin, oldest, youngest, logs, spans, counters, _) =>
      ⟨origin, oldest, youngest, logs, spans, counters⟩)
    (fun _ => rfl) (fun _ => rfl)

/-- A call as it is read. -/
def Call.schema : Schema Call :=
  .record "ReportCall"
    (.always "method" .text <| .always "seq_id" .word <|
      .always "auth" Auth.schema <| .always "request" Report.schema .done)
    (fun c => (c.method, c.seqId, c.auth, c.report, ()))
    (fun (method, seqId, auth, report, _) => ⟨method, seqId, auth, report⟩)
    (fun _ => rfl) (fun _ => rfl)

/-- A call as it is written: the same fields, listed once more under another name. -/
def Call.writtenSchema : Schema Call :=
  .record "ReportCallRef"
    (.always "method" .text <| .always "seq_id" .word <|
      .always "auth" Auth.schema <| .always "request" Report.schema .done)
    (fun c => (c.method, c.seqId, c.auth, c.report, ()))
    (fun (method, seqId, auth, report, _) => ⟨method, seqId, auth, report⟩)
    (fun _ => rfl) (fun _ => rfl)

def Command.schema : Schema Command :=
  .record "Command" (.field "disable" .flag (.defaulted false) .done)
    (fun c => (c.disable, ()))
    (fun (disable, _) => ⟨disable⟩)
    (fun _ => rfl) (fun _ => rfl)

def Response.schema : Schema Response :=
  .record "ReportResponse"
    (.field "commands" (.list Command.schema) (.defaulted []) <|
      .field "errors" (.list .text) (.defaulted []) .done)
    (fun r => (r.commands, r.errors, ()))
    (fun (commands, errors, _) => ⟨commands, errors⟩)
    (fun _ => rfl) (fun _ => rfl)

end Telemetry
