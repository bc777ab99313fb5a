import Telemetry.Delivery.Http

/-!
Workers that post the jobs of a transport, each one in its own time. A worker has the
jobs it was handed in a queue, does the oldest first and puts the reply on the channel of
that job's exchange, whether anybody waits there or not. It may end at any time, and its
jobs are then lost. A worker whose transport has let go of it goes on all the same.

Whatever the workers do, a reply is one to a job that was handed to the worker from which
it comes.
-/

namespace Telemetry

/-- A body to post, and the exchange whose channel gets the reply. -/
structure Job where
  exchange : Nat
  body : List UInt8
  deriving DecidableEq, Repr

structure Worker where
  jobs : List Job := []
  ended : Bool := false
  deriving DecidableEq, Repr

/-- A reply on the channel of its job, and who has done the job. -/
structure Message where
  worker : Nat
  job : Job
  posted : Posted
  deriving DecidableEq, Repr

/-- All workers that were ever started, by their numbers, and all replies, in the order
in which they came. -/
structure Workshop where
  workers : List Worker := []
  messages : List Message := []
  deriving DecidableEq, Repr

/-- What a worker does by itself. -/
inductive Deed
  | reply (worker : Nat) (posted : Posted)
  | ending (worker : Nat)
  deriving DecidableEq, Repr

namespace Workshop

def start (w : Workshop) : Workshop :=
  { w with workers := w.workers ++ [{}] }

def runs (w : Workshop) (number : Nat) : Bool :=
  match w.workers[number]? with
  | some worker => !worker.ended
  | none => false

def hand (w : Workshop) (number : Nat) (job : Job) : Workshop :=
  { w with workers := w.workers.modify number fun worker =>
      { worker with jobs := worker.jobs ++ [job] } }

/-- The job that a worker does next. -/
def next? (w : Workshop) (number : Nat) : Option Job :=
  w.workers[number]?.bind (·.jobs.head?)

def act (w : Workshop) : Deed → Workshop
  | .reply number posted =>
    match w.next? number with
    | some job =>
      { workers := w.workers.modify number fun worker =>
          { worker with jobs := worker.jobs.tail }
        messages := w.messages ++ [⟨number, job, posted⟩] }
    | none => w
  | .ending number => { w with workers := w.workers.modify number fun _ => ⟨[], true⟩ }

def acts (w : Workshop) (deeds : List Deed) : Workshop :=
  deeds.foldl act w

/-- Whether there is a worker that may still reply in an exchange. -/
def isPending (w : Workshop) (exchange : Nat) : Bool :=
  w.workers.any fun worker => worker.jobs.any (·.exchange = exchange)

/-- The worker was handed the job: it still has it, or it has replied. -/
def Holds (w : Workshop) (number : Nat) (job : Job) : Prop :=
  (∃ worker, w.workers[number]? = some worker ∧ job ∈ worker.jobs) ∨
    ∃ posted, ⟨number, job, posted⟩ ∈ w.messages

variable {w : Workshop} {number : Nat} {job : Job}

@[simp] theorem length_start (w : Workshop) : w.start.workers.length = w.workers.length + 1 := by
  simp [start]

@[simp] theorem length_hand (w : Workshop) (number : Nat) (job : Job) :
    (w.hand number job).workers.length = w.workers.length := by
  simp [hand]

@[simp] theorem length_act (w : Workshop) (deed : Deed) :
    (w.act deed).workers.length = w.workers.length := by
  cases deed with
  | reply number posted =>
    unfold act
    dsimp only
    split
    · simp
    · rfl
  | ending number => simp [act]

@[simp] theorem length_acts (w : Workshop) (deeds : List Deed) :
    (w.acts deeds).workers.length = w.workers.length := by
  induction deeds generalizing w with
  | nil => rfl
  | cons deed rest ih => exact (ih (w.act deed)).trans (w.length_act deed)

/-- A job that a worker has after a change of one worker was there before, or the change
has brought it. -/
theorem of_mem_modify {f : Worker → Worker} {changed : Nat}
    (hjob : ∃ worker, (w.workers.modify changed f)[number]? = some worker ∧ job ∈ worker.jobs) :
    (∃ worker, w.workers[number]? = some worker ∧ job ∈ worker.jobs) ∨
      changed = number ∧ ∃ worker, w.workers[number]? = some worker ∧ job ∈ (f worker).jobs := by
  obtain ⟨worker, hworker, hmember⟩ := hjob
  rw [List.getElem?_modify] at hworker
  by_cases hat : changed = number
  · obtain ⟨old, hold, hchanged⟩ := Option.map_eq_some_iff.mp hworker
    rw [if_pos hat] at hchanged
    subst hchanged
    exact Or.inr ⟨hat, old, hold, hmember⟩
  · obtain ⟨old, hold, hchanged⟩ := Option.map_eq_some_iff.mp hworker
    rw [if_neg hat] at hchanged
    subst hchanged
    exact Or.inl ⟨old, hold, hmember⟩

/-- No deed brings a job that was not handed out before. -/
theorem holds_of_act {deed : Deed} (hholds : (w.act deed).Holds number job) :
    w.Holds number job := by
  cases deed with
  | ending ended =>
    rcases hholds with hjob | hmessage
    · rcases of_mem_modify hjob with hbefore | ⟨_, _, _, hnone⟩
      · exact Or.inl hbefore
      · cases hnone
    · exact Or.inr hmessage
  | reply changed posted =>
    dsimp only [act] at hholds
    cases hnext : w.next? changed with
    | none =>
      rw [hnext] at hholds
      exact hholds
    | some done =>
      rw [hnext] at hholds
      rcases hholds with hjob | ⟨own, hmessage⟩
      · rcases of_mem_modify hjob with hbefore | ⟨_, worker, hworker, htail⟩
        · exact Or.inl hbefore
        · exact Or.inl ⟨worker, hworker, List.mem_of_mem_tail htail⟩
      · rcases List.mem_append.mp hmessage with hold | hnew
        · exact Or.inr ⟨own, hold⟩
        · cases List.mem_singleton.mp hnew
          obtain ⟨worker, hworker, hhead⟩ := Option.bind_eq_some_iff.mp hnext
          exact Or.inl ⟨worker, hworker, List.mem_of_head? hhead⟩

theorem holds_of_acts {deeds : List Deed} (hholds : (w.acts deeds).Holds number job) :
    w.Holds number job := by
  induction deeds generalizing w with
  | nil => exact hholds
  | cons deed rest ih => exact holds_of_act (ih hholds)

theorem holds_of_start (hholds : w.start.Holds number job) : w.Holds number job := by
  rcases hholds with ⟨worker, hworker, hmember⟩ | hmessage
  · rw [start, List.getElem?_append] at hworker
    split at hworker
    · exact Or.inl ⟨worker, hworker, hmember⟩
    · cases List.mem_singleton.mp (List.mem_of_getElem? hworker)
      cases hmember
  · exact Or.inr hmessage

theorem holds_of_hand {changed : Nat} {handed : Job}
    (hholds : (w.hand changed handed).Holds number job) :
    w.Holds number job ∨ number = changed ∧ job = handed := by
  rcases hholds with hjob | hmessage
  · rcases of_mem_modify hjob with hbefore | ⟨hat, worker, hworker, hmember⟩
    · exact Or.inl (Or.inl hbefore)
    · rcases List.mem_append.mp hmember with hold | hnew
      · exact Or.inl (Or.inl ⟨worker, hworker, hold⟩)
      · exact Or.inr ⟨hat.symm, List.mem_singleton.mp hnew⟩
  · exact Or.inl (Or.inr hmessage)

end Workshop

end Telemetry
