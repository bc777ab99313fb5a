import Telemetry.Recorder

/-!
The one recorder of a process. It is published once and for good; who asks for it
later gets the same one, whatever they ask with.
-/

namespace Telemetry

structure Shared (σ : Type) where
  published : Option (Recorder σ) := none

/-- What a call for the recorder needs beside its arguments: the carrier that
options ask for, or why there is no TLS configuration for one, the process, random
draws and the clock. -/
structure Founding (σ : Type) where
  carrier : Options → Except String σ
  processId : UInt32
  draws : List UInt64
  now : Int

namespace Shared

variable {σ : Type}

/-- A recorder with this identity, which wins over one in the options. The carrier
is made once the options are known to be good. -/
def build (T : Transport σ) (founding : Founding σ) (groupName accessToken : String)
    (options : Options) : Except ConfigError (Recorder.Turn σ) := do
  Identity.validate groupName accessToken
  let options := options.withIdentity groupName accessToken
  options.validate
  let carrier ← (founding.carrier options).mapError .tls
  Recorder.create T carrier options founding.processId founding.draws founding.now

/-- Publishes a recorder if there is none; its existence is looked at before the
arguments are. -/
def publish (T : Transport σ) (s : Shared σ) (founding : Founding σ)
    (groupName accessToken : String) (options : Options) :
    Except ConfigError (Recorder σ) × Shared σ :=
  match s.published with
  | some _ => (.error .alreadyInitialized, s)
  | none =>
    match build T founding groupName accessToken options with
    | .error error => (.error error, s)
    | .ok turn => (.ok turn.next, ⟨some turn.next⟩)

/-- The published recorder, or a new one. -/
def getOrPublish (T : Transport σ) (s : Shared σ) (founding : Founding σ)
    (groupName accessToken : String) (options : Options) :
    Except ConfigError (Recorder σ) × Shared σ :=
  match s.published with
  | some recorder => (.ok recorder, s)
  | none => s.publish T founding groupName accessToken options

/-- A step of the published recorder, if there is one. -/
def update (s : Shared σ) (step : Recorder σ → Recorder.Turn σ) : Shared σ × Trace :=
  match s.published with
  | some recorder =>
    let turn := step recorder
    (⟨some turn.next⟩, turn.trace)
  | none => (s, [])

/-- Shuts the published recorder down and leaves it published. -/
def shutdown (T : Transport σ) (s : Shared σ) (now : Int) : Shared σ × Trace :=
  s.update fun recorder => recorder.shutdown T now

end Shared

end Telemetry
