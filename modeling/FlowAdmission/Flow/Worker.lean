import FlowAdmission.Flow.Basic
import FlowAdmission.Graph.DebugText
import FlowAdmission.Admission.Availability
import FlowAdmission.Accounts.Label

namespace FlowAdmission

structure Worker where
  node : Key Node
  rotation : Key Rotation
  ledger : Key Ledger
  sequence : Key Sequence
  meter : Key Meter
deriving DecidableEq

namespace Flow

variable (f : Flow)

/-- What of a worker's belongings is given from outside; the rest is its own. -/
structure Shared where
  rotation : Option (Key Rotation)
  ledger : Option (Key Ledger)
  sequence : Option (Key Sequence)

def addWorker (n : Key Node) (shared : Shared) (recording : Bool) : Worker × Flow :=
  let (rotation, f) := match shared.rotation with
    | some k => (k, f)
    | none => f.addRotation ⟨0⟩
  let (ledger, f) := match shared.ledger with
    | some k => (k, f)
    | none => f.addLedger
  let (sequence, f) := match shared.sequence with
    | some k => (k, f)
    | none => f.addSequence ⟨0⟩
  let (meter, f) := f.addMeter (f.nodes n).id.text recording
  (⟨n, rotation, ledger, sequence, meter⟩, f)

def addTasks (n : Key Node) (ledger : Key Ledger) (recording : Bool) : List Worker × Flow :=
  let (w, f) := f.addWorker n ⟨none, some ledger, none⟩ recording
  (List.replicate (f.nodes n).tasks.toNat w, f)

def isRestricted (w : Worker) : Bool :=
  (f.nodes w.node).isRestricted f.isFull

def mayRun (w : Worker) (required : Nat) : Bool :=
  ((f.nodes w.node).satisfied f.isFull required).answer

def poll (w : Worker) : List Edge × Flow :=
  let node := f.nodes w.node
  let pollable := node.pollable f.isFull
  let f :=
    if node.isRestricted f.isFull then (f.note [.restricted node.id]).meterEngaged w.meter else f
  (pollable, (f.meterPollable w.meter pollable.length.toUInt64).2)

def advance (w : Worker) : UInt64 × Flow :=
  let (n, r) := (f.rotations w.rotation).advance
  (n, { f with rotations := f.rotations.set w.rotation r })

def nextIndex (w : Worker) : Nat × Flow :=
  let (i, r) := (f.rotations w.rotation).next (f.nodes w.node).incoming.length
  (i, { f with rotations := f.rotations.set w.rotation r })

def adjustCounter (w : Worker) (name : String) (delta : Int64) : Flow :=
  let node := f.nodes w.node
  let own := f.adjust w.ledger node.ownLabel name delta
  let both := own.adjust w.ledger node.typeLabel name delta
  both.meterAdjustment w.meter

end Flow

def Worker.debug (f : Flow) (w : Worker) : String :=
  "SchedulingContext \x7b connectable: " ++ (f.nodes w.node).id.debug ++
    ", connection_index: RoundRobinIndex \x7b counter: " ++
    toString (f.rotations w.rotation).count.toNat ++ " \x7d, .. \x7d"

end FlowAdmission
