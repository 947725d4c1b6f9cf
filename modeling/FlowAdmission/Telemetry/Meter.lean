import FlowAdmission.Telemetry.Recorder

namespace FlowAdmission

/-- The handles of one node id. A meter made without a recorder records nothing; `last` is the count
last recorded through these handles, at first the greatest there is. -/
structure Meter where
  node : String
  recording : Bool
  last : UInt64
deriving DecidableEq

namespace Meter

def make (node : String) (recording : Bool) : Meter :=
  ⟨node, recording, 18446744073709551615⟩

variable (m : Meter) (r : Recorder)

def register : Recorder :=
  if m.recording then r.register m.node else r

def engage : Recorder :=
  if m.recording then r.engage m.node else r

def adjust : Recorder :=
  if m.recording then r.adjust m.node else r

def setPollable (count : UInt64) : Bool × Meter × Recorder :=
  if m.last = count then (false, m, r)
  else (true, { m with last := count }, if m.recording then r.setPollable m.node count else r)

end Meter

end FlowAdmission
