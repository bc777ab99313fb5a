import Telemetry.Account
import Telemetry.Proofs.Buffer

/-!
Log records and span records are taken in, held, stamped, reported and counted in
the same way. A kind picks the parts of a recorder and of a report that belong to
one of them, so that a law is stated once and holds of both.
-/

namespace Telemetry

private theorem stampLog_stampLog (guid : String) (record : LogRecord) :
    Recorder.stampLog guid (Recorder.stampLog guid record) = Recorder.stampLog guid record := by
  unfold Recorder.stampLog
  by_cases hempty : record.runtimeGuid = ""
  · simp [hempty]
  · simp [hempty]

private theorem stampSpan_stampSpan (guid : String) (record : SpanRecord) :
    Recorder.stampSpan guid (Recorder.stampSpan guid record) = Recorder.stampSpan guid record := by
  unfold Recorder.stampSpan
  by_cases hempty : record.runtimeGuid = ""
  · simp [hempty]
  · simp [hempty]

/-- Stamping gives a record the guid, if it has no other one. -/
theorem Recorder.stampLog_guid (guid : String) (record : LogRecord)
    (hguid : record.runtimeGuid = "" ∨ record.runtimeGuid = guid) :
    stampLog guid record = { record with runtimeGuid := guid } := by
  unfold stampLog
  rcases hguid with hempty | hsame
  · rw [if_pos hempty]
  · split
    · rfl
    · rw [← hsame]

theorem Recorder.stampSpan_guid (guid : String) (record : SpanRecord)
    (hguid : record.runtimeGuid = "" ∨ record.runtimeGuid = guid) :
    stampSpan guid record = { record with runtimeGuid := guid } := by
  unfold stampSpan
  rcases hguid with hempty | hsame
  · rw [if_pos hempty]
  · split
    · rfl
    · rw [← hsame]

inductive RecordKind
  | log
  | span
  deriving DecidableEq, Repr

namespace RecordKind

variable {σ : Type}

def Record : RecordKind → Type
  | .log => LogRecord
  | .span => SpanRecord

/-- The buffer of the records that wait for the next report. -/
def held (kind : RecordKind) (r : Recorder σ) : Buffer kind.Record :=
  match kind with
  | .log => r.logs
  | .span => r.spans

/-- How many were given up since the last report. -/
def counter (kind : RecordKind) (r : Recorder σ) : Int :=
  match kind with
  | .log => r.counters.logs
  | .span => r.counters.spans

def counterName : RecordKind → String
  | .log => droppedLogs
  | .span => droppedSpans

def carried (kind : RecordKind) (report : Report) : List kind.Record :=
  match kind with
  | .log => report.logRecords
  | .span => report.spanRecords

def stamp (kind : RecordKind) (guid : String) (record : kind.Record) : kind.Record :=
  match kind with
  | .log => Recorder.stampLog guid record
  | .span => Recorder.stampSpan guid record

def runtimeGuid (kind : RecordKind) (record : kind.Record) : String :=
  match kind with
  | .log => LogRecord.runtimeGuid record
  | .span => SpanRecord.runtimeGuid record

/-- Every other field stays. -/
def withGuid (kind : RecordKind) (guid : String) (record : kind.Record) : kind.Record :=
  match kind with
  | .log => { (record : LogRecord) with runtimeGuid := guid }
  | .span => { (record : SpanRecord) with runtimeGuid := guid }

/-- The same record, but for an empty guid that may have been filled in. -/
def Stamped (kind : RecordKind) (guid : String) (before after : kind.Record) : Prop :=
  after = before ∨ kind.runtimeGuid before = "" ∧ after = kind.withGuid guid before

/-- The same record, but for an empty guid that has been filled in. -/
def Completed (kind : RecordKind) (guid : String) (before after : kind.Record) : Prop :=
  if kind.runtimeGuid before = "" then after = kind.withGuid guid before else after = before

theorem completed_stamp (kind : RecordKind) (guid : String) (record : kind.Record) :
    kind.Completed guid record (kind.stamp guid record) := by
  unfold Completed
  cases kind with
  | log =>
    split
    next hempty => exact if_pos hempty
    next hknown => exact if_neg hknown
  | span =>
    split
    next hempty => exact if_pos hempty
    next hknown => exact if_neg hknown

theorem stamp_stamp (kind : RecordKind) (guid : String) (record : kind.Record) :
    kind.stamp guid (kind.stamp guid record) = kind.stamp guid record := by
  cases kind with
  | log => exact stampLog_stampLog guid record
  | span => exact stampSpan_stampSpan guid record

theorem Completed.stamped {kind : RecordKind} {guid : String} {before after : kind.Record}
    (hcompleted : kind.Completed guid before after) : kind.Stamped guid before after := by
  unfold Completed at hcompleted
  split at hcompleted
  next hempty => exact Or.inr ⟨hempty, hcompleted⟩
  next => exact Or.inl hcompleted

theorem stamped_stamp (kind : RecordKind) (guid : String) (record : kind.Record) :
    kind.Stamped guid record (kind.stamp guid record) :=
  (kind.completed_stamp guid record).stamped

theorem Stamped.refl (kind : RecordKind) (guid : String) (record : kind.Record) :
    kind.Stamped guid record record :=
  Or.inl rfl

theorem withGuid_withGuid (kind : RecordKind) (guid : String) (record : kind.Record) :
    kind.withGuid guid (kind.withGuid guid record) = kind.withGuid guid record := by
  cases kind with
  | log => rfl
  | span => rfl

/-- Filling in twice is filling in once, so a record may fail any number of times. -/
theorem Stamped.trans {kind : RecordKind} {guid : String} {a b c : kind.Record}
    (hab : kind.Stamped guid a b) (hbc : kind.Stamped guid b c) : kind.Stamped guid a c := by
  rcases hab with rfl | ⟨hempty, rfl⟩
  · exact hbc
  · rcases hbc with rfl | ⟨_, rfl⟩
    · exact Or.inr ⟨hempty, rfl⟩
    · exact Or.inr ⟨hempty, kind.withGuid_withGuid guid a⟩

theorem carried_batch (kind : RecordKind) (r : Recorder σ) (identity : Identity) (now : Int) :
    kind.carried (r.batch identity now) = (kind.held r).items.map (kind.stamp identity.guid) := by
  cases kind with
  | log => rfl
  | span => rfl

/-- The two counters of a report have different names, so neither is counted for
the other. -/
theorem counted_batch (kind : RecordKind) (r : Recorder σ) (identity : Identity) (now : Int) :
    (r.batch identity now).counted kind.counterName = kind.counter r := by
  cases kind with
  | log => simp [Report.counted, Recorder.batch, DropCounters.named, counterName, counter,
      droppedLogs, droppedSpans]
  | span => simp [Report.counted, Recorder.batch, DropCounters.named, counterName, counter,
      droppedLogs, droppedSpans]

end RecordKind

end Telemetry
