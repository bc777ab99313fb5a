import Telemetry.Keyed
import Telemetry.Report

/-!
A span: one timed operation with join ids and attributes, kept by a handle until
it is finished. The end doubles as the mark of being finished, so a span that
ends at time zero is not finished. A span that was started while nothing was
recorded is inert and takes no changes.
-/

namespace Telemetry

structure SpanData where
  guid : String := ""
  operation : String := ""
  joinIds : Keyed String := []
  attributes : Keyed String := []
  startMicros : Int := 0
  endMicros : Int := 0
  errorFlag : Bool := false
  deriving DecidableEq, Repr

/-- The attribute that names a span's parent. -/
def parentSpanKey : String := "parent_span_guid"

/-- The join id that names the end user. -/
def endUserKey : String := "end_user_id"

def SpanData.toRecord (data : SpanData) (runtimeGuid : String) : SpanRecord where
  runtimeGuid
  spanGuid := data.guid
  spanName := data.operation
  oldestMicros := data.startMicros
  youngestMicros := data.endMicros
  joinIds := data.joinIds.map fun (key, value) => ⟨key, value⟩
  attributes := data.attributes.map fun (key, value) => ⟨key, value⟩
  errorFlag := data.errorFlag

def SpanData.isFinished (data : SpanData) : Bool :=
  data.endMicros ≠ 0

structure Span where
  live : Bool
  data : SpanData
  deriving DecidableEq, Repr

namespace Span

def inert : Span :=
  ⟨false, {}⟩

def start (guid : String) (now : Int) : Span :=
  ⟨true, { guid, startMicros := now }⟩

/-- Changes the data of a live span only. -/
def change (span : Span) (f : SpanData → SpanData) : Span :=
  if span.live then { span with data := f span.data } else span

def setOperation (span : Span) (name : String) : Span :=
  span.change fun data => { data with operation := name }

def addAttribute (span : Span) (key value : String) : Span :=
  span.change fun data => { data with attributes := data.attributes.insert key value }

def addJoinId (span : Span) (key value : String) : Span :=
  span.change fun data => { data with joinIds := data.joinIds.insert key value }

def setEndUserId (span : Span) (value : String) : Span :=
  span.addJoinId endUserKey value

/-- Join ids of the parent fill in what the span itself does not say. -/
def inherit (joinIds : Keyed String) (parent : Keyed String) : Keyed String :=
  parent.foldl (fun ids (key, value) => ids.insertNew key value) joinIds

def setParent (span parent : Span) : Span :=
  (span.change fun data => { data with joinIds := inherit data.joinIds parent.data.joinIds })
    |>.addAttribute parentSpanKey parent.data.guid

/-- Notes that an error was logged through the span. -/
def noteLevel (span : Span) (level : Level) : Span :=
  span.change fun data => { data with errorFlag := data.errorFlag || level.isError }

/-- What is logged about a span that is given up unfinished. -/
def abandonedMessage (data : SpanData) : String :=
  "finish() never called on span (operation='" ++ data.operation ++ "')"

end Span

end Telemetry
