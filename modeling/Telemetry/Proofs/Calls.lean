import Telemetry.Proofs.Keyed
import Telemetry.Span

/-!
What calls make of a span. Most of what a span tells is said by the last call that says
anything about it. A join id that no call writes is the one of the first parent that had it
when it was passed, so it does not matter whether a value of its own comes before or after.
-/

namespace Telemetry

/-- What is done to a live span through its handle. A parent is given as it is at that
moment, and a finish with the reading at which it is accepted. -/
inductive Span.Call
  | setOperation (name : String)
  | addAttribute (key value : String)
  | addJoinId (key value : String)
  | setEndUserId (value : String)
  | setParent (parent : Span)
  | log (level : Level)
  | finish (now : Int)
  deriving DecidableEq

namespace Span.Call

/-- What becomes of the data of a live span. -/
def write (call : Call) (data : SpanData) : SpanData :=
  match call with
  | .setOperation name => { data with operation := name }
  | .addAttribute key value => { data with attributes := data.attributes.insert key value }
  | .addJoinId key value => { data with joinIds := data.joinIds.insert key value }
  | .setEndUserId value => { data with joinIds := data.joinIds.insert endUserKey value }
  | .setParent parent =>
    { data with
      joinIds := inherit data.joinIds parent.data.joinIds
      attributes := data.attributes.insert parentSpanKey parent.data.guid }
  | .log level => { data with errorFlag := data.errorFlag || level.isError }
  | .finish now => { data with endMicros := max now data.startMicros }

def operation? : Call → Option String
  | .setOperation name => some name
  | _ => none

/-- The parent is an attribute as well. -/
def attribute? (key : String) : Call → Option String
  | .addAttribute k value => if k = key then some value else none
  | .setParent parent => if parentSpanKey = key then some parent.data.guid else none
  | _ => none

/-- The value that is written for a join id. -/
def joinId? (key : String) : Call → Option String
  | .addJoinId k value => if k = key then some value else none
  | .setEndUserId value => if endUserKey = key then some value else none
  | _ => none

/-- The value that a parent has for a join id. -/
def inherited? (key : String) : Call → Option String
  | .setParent parent => parent.data.joinIds.get? key
  | _ => none

def isError : Call → Bool
  | .log level => level.isError
  | _ => false

def finish? : Call → Option Int
  | .finish now => some now
  | _ => none

end Span.Call

namespace Span

/-! ## What calls say -/

def lastOperation (calls : List Call) : Option String :=
  (calls.filterMap Call.operation?).getLast?

def lastAttribute (calls : List Call) (key : String) : Option String :=
  (calls.filterMap (Call.attribute? key)).getLast?

/-- The value that was written last, or else that of the first parent that had one. -/
def joinId (calls : List Call) (key : String) : Option String :=
  (calls.filterMap (Call.joinId? key)).getLast?.or
    (calls.filterMap (Call.inherited? key)).head?

def lastFinish (calls : List Call) : Option Int :=
  (calls.filterMap Call.finish?).getLast?

theorem getLast?_filterMap_cons {β : Type} (said : Call → Option β) (call : Call)
    (rest : List Call) :
    ((call :: rest).filterMap said).getLast? =
      (rest.filterMap said).getLast?.or (said call) := by
  rw [List.filterMap_cons]
  cases said call with
  | none => exact (Option.or_none).symm
  | some value =>
    rw [List.getLast?_cons]
    cases (rest.filterMap said).getLast? with
    | none => rfl
    | some later => rfl

theorem lastFinish_eq_none_iff (calls : List Call) :
    lastFinish calls = none ↔ ∀ now, .finish now ∉ calls := by
  unfold lastFinish
  rw [List.getLast?_eq_none_iff, List.filterMap_eq_nil_iff]
  constructor
  · intro hnone now hfinish
    cases hnone (.finish now) hfinish
  · intro hnone call hcall
    cases call with
    | finish now => exact absurd hcall (hnone now)
    | _ => rfl

theorem mem_of_lastFinish {calls : List Call} {now : Int} (hlast : lastFinish calls = some now) :
    .finish now ∈ calls := by
  obtain ⟨call, hcall, hfinish⟩ := List.mem_filterMap.mp (List.mem_of_getLast? hlast)
  cases call with
  | finish later =>
    cases hfinish
    exact hcall
  | _ => cases hfinish

/-! ## Inheriting -/

theorem get?_inherit (joinIds parent : Keyed String) (key : String) :
    (inherit joinIds parent).get? key = (joinIds.get? key).or (parent.get? key) := by
  unfold inherit
  induction parent generalizing joinIds with
  | nil => simp
  | cons entry rest ih =>
    obtain ⟨k, value⟩ := entry
    rw [List.foldl_cons, ih, Keyed.get?_insertNew, Keyed.get?_cons, Option.or_assoc]
    split
    · rfl
    · rfl

theorem sorted_inherit (joinIds parent : Keyed String) (hsorted : joinIds.Sorted) :
    (inherit joinIds parent).Sorted := by
  unfold inherit
  induction parent generalizing joinIds with
  | nil => exact hsorted
  | cons entry rest ih => exact ih _ (Keyed.sorted_insertNew entry.1 entry.2 joinIds hsorted)

end Span

namespace SpanData

/-- The data after calls, the first one first. -/
def after (data : SpanData) (calls : List Span.Call) : SpanData :=
  calls.foldl (fun data call => call.write data) data

theorem after_cons (data : SpanData) (call : Span.Call) (rest : List Span.Call) :
    data.after (call :: rest) = (call.write data).after rest := rfl

theorem guid_after (data : SpanData) (calls : List Span.Call) :
    (data.after calls).guid = data.guid := by
  induction calls generalizing data with
  | nil => rfl
  | cons call rest ih =>
    have hcall : (call.write data).guid = data.guid := by
      cases call with
      | _ => rfl
    exact (ih (call.write data)).trans hcall

theorem startMicros_write (call : Span.Call) (data : SpanData) :
    (call.write data).startMicros = data.startMicros := by
  cases call with
  | _ => rfl

/-- Where a call that says something has the last word, the last such call has it. -/
theorem said_after {β : Type} (told : SpanData → Option β) (said : Span.Call → Option β)
    (hsaid : ∀ call data, told (call.write data) = (said call).or (told data))
    (data : SpanData) (calls : List Span.Call) :
    told (data.after calls) = (calls.filterMap said).getLast?.or (told data) := by
  induction calls generalizing data with
  | nil => rfl
  | cons call rest ih =>
    rw [Span.getLast?_filterMap_cons, Option.or_assoc, ← hsaid]
    exact ih (call.write data)

theorem operation_after (data : SpanData) (calls : List Span.Call) :
    (data.after calls).operation = (Span.lastOperation calls).getD data.operation := by
  have hlast := said_after (fun data => some data.operation) Span.Call.operation?
    (fun call data => by cases call <;> rfl) data calls
  cases hcalls : Span.lastOperation calls with
  | none =>
    rw [← Span.lastOperation, hcalls] at hlast
    exact Option.some.inj hlast
  | some name =>
    rw [← Span.lastOperation, hcalls] at hlast
    exact Option.some.inj hlast

theorem attribute_after (data : SpanData) (calls : List Span.Call) (key : String) :
    (data.after calls).attributes.get? key =
      (Span.lastAttribute calls key).or (data.attributes.get? key) := by
  apply said_after (fun data => data.attributes.get? key) (Span.Call.attribute? key)
  intro call data
  cases call with
  | addAttribute k value =>
    simp only [Span.Call.write, Span.Call.attribute?, Keyed.get?_insert]
    split
    · rfl
    · rfl
  | setParent parent =>
    simp only [Span.Call.write, Span.Call.attribute?, Keyed.get?_insert]
    split
    · rfl
    · rfl
  | _ => rfl

/-- A value that is written wins, then the one that was there, then that of a parent. -/
theorem joinId_after (data : SpanData) (calls : List Span.Call) (key : String) :
    (data.after calls).joinIds.get? key =
      (calls.filterMap (Span.Call.joinId? key)).getLast?.or
        ((data.joinIds.get? key).or (calls.filterMap (Span.Call.inherited? key)).head?) := by
  induction calls generalizing data with
  | nil => simp [after]
  | cons call rest ih =>
    have hcall : (call.write data).joinIds.get? key =
        (call.joinId? key).or ((data.joinIds.get? key).or (call.inherited? key)) := by
      cases call with
      | addJoinId k value =>
        simp only [Span.Call.write, Span.Call.joinId?, Span.Call.inherited?, Keyed.get?_insert]
        split
        · rfl
        · simp
      | setEndUserId value =>
        simp only [Span.Call.write, Span.Call.joinId?, Span.Call.inherited?, Keyed.get?_insert]
        split
        · rfl
        · simp
      | setParent parent => exact Span.get?_inherit data.joinIds parent.data.joinIds key
      | _ => exact (Option.or_none).symm
    have hhead : ((call :: rest).filterMap (Span.Call.inherited? key)).head? =
        (call.inherited? key).or (rest.filterMap (Span.Call.inherited? key)).head? := by
      cases hinherited : call.inherited? key with
      | none => simp [hinherited]
      | some value => simp [hinherited]
    have hrest := ih (call.write data)
    rw [hcall] at hrest
    rw [after_cons, Span.getLast?_filterMap_cons, hhead]
    simpa only [Option.or_assoc] using hrest

theorem errorFlag_after (data : SpanData) (calls : List Span.Call) :
    (data.after calls).errorFlag = (data.errorFlag || calls.any Span.Call.isError) := by
  induction calls generalizing data with
  | nil => simp [after]
  | cons call rest ih =>
    have hcall : (call.write data).errorFlag = (data.errorFlag || call.isError) := by
      cases call with
      | log level => rfl
      | _ => exact (Bool.or_false _).symm
    rw [List.any_cons, ← Bool.or_assoc, ← hcall]
    exact ih (call.write data)

theorem endMicros_after (data : SpanData) (calls : List Span.Call) :
    (data.after calls).endMicros =
      ((Span.lastFinish calls).map fun now => max now data.startMicros).getD data.endMicros := by
  induction calls generalizing data with
  | nil => rfl
  | cons call rest ih =>
    have hcall : (call.write data).endMicros =
        (call.finish?.map fun now => max now data.startMicros).getD data.endMicros := by
      cases call with
      | _ => rfl
    have hrest := ih (call.write data)
    rw [startMicros_write, hcall] at hrest
    unfold Span.lastFinish at hrest ⊢
    rw [Span.getLast?_filterMap_cons]
    cases hlast : (rest.filterMap Span.Call.finish?).getLast? with
    | none =>
      rw [hlast] at hrest
      exact hrest
    | some now =>
      rw [hlast] at hrest
      exact hrest

/-- Both maps of a span keep their keys in order. -/
def Ordered (data : SpanData) : Prop :=
  data.joinIds.Sorted ∧ data.attributes.Sorted

theorem ordered_after (data : SpanData) (calls : List Span.Call) (hordered : data.Ordered) :
    (data.after calls).Ordered := by
  induction calls generalizing data with
  | nil => exact hordered
  | cons call rest ih =>
    apply ih (call.write data)
    obtain ⟨hjoinIds, hattributes⟩ := hordered
    cases call with
    | addAttribute key value =>
      exact ⟨hjoinIds, Keyed.sorted_insert key value data.attributes hattributes⟩
    | addJoinId key value =>
      exact ⟨Keyed.sorted_insert key value data.joinIds hjoinIds, hattributes⟩
    | setEndUserId value =>
      exact ⟨Keyed.sorted_insert endUserKey value data.joinIds hjoinIds, hattributes⟩
    | setParent parent =>
      exact ⟨Span.sorted_inherit data.joinIds parent.data.joinIds hjoinIds,
        Keyed.sorted_insert parentSpanKey parent.data.guid data.attributes hattributes⟩
    | _ => exact ⟨hjoinIds, hattributes⟩

end SpanData

end Telemetry
