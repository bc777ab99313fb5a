import Telemetry.Delivery

/-!
A transport that keeps what it is given and answers from a script. The last
answer of a script is given again and again.
-/

namespace Telemetry

/-- Reports in the order in which they came, the answers still to be given, and
how often the transport was closed. -/
structure Recording where
  script : List Answer := []
  kept : List (Auth × Report) := []
  closes : Nat := 0

namespace Recording

def nextAnswer : List Answer → Answer × List Answer
  | [] => (.settled .unconfirmed, [])
  | [last] => (last, [last])
  | answer :: rest => (answer, rest)

def transport : Transport Recording where
  name _ := "recording"
  send recording auth report :=
    let (answer, script) := nextAnswer recording.script
    ⟨[], answer, { recording with script, kept := recording.kept ++ [(auth, report)] }⟩
  close recording := { recording with closes := recording.closes + 1 }

end Recording

end Telemetry
