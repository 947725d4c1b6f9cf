import FlowAdmission.Graph.Linking
import FlowAdmission.Admission.Rotation
import FlowAdmission.Accounts.Ledger
import FlowAdmission.Accounts.Sequence
import FlowAdmission.Telemetry.Event
import FlowAdmission.Telemetry.Meter

namespace FlowAdmission

/-- Everything that changes while nodes run. Names are given out by counting. -/
structure Flow where
  nodes : Store Node
  queues : Store Queue
  rotations : Store Rotation
  ledgers : Store Ledger
  sequences : Store Sequence
  meters : Store Meter
  recorder : Recorder
  log : List Event
  names : Nat

namespace Flow

def empty : Flow where
  nodes _ := .ofSpec .blank
  queues _ := .switch false
  rotations _ := ⟨0⟩
  ledgers _ := .empty
  sequences _ := ⟨0⟩
  meters _ := .make "" false
  recorder := .empty
  log := []
  names := 0

variable (f : Flow)

def isFull (q : Key Queue) : Bool :=
  (f.queues q).isFull

def note (events : List Event) : Flow :=
  { f with log := f.log ++ events }

def takeLog : List Event × Flow :=
  (f.log, { f with log := [] })

def addQueue (q : Queue) : Key Queue × Flow :=
  (⟨f.names⟩, { f with queues := f.queues.set ⟨f.names⟩ q, names := f.names + 1 })

def addRotation (r : Rotation) : Key Rotation × Flow :=
  (⟨f.names⟩, { f with rotations := f.rotations.set ⟨f.names⟩ r, names := f.names + 1 })

def addLedger : Key Ledger × Flow :=
  (⟨f.names⟩, { f with ledgers := f.ledgers.set ⟨f.names⟩ .empty, names := f.names + 1 })

def addSequence (s : Sequence) : Key Sequence × Flow :=
  (⟨f.names⟩, { f with sequences := f.sequences.set ⟨f.names⟩ s, names := f.names + 1 })

def addMeter (node : String) (recording : Bool) : Key Meter × Flow :=
  let m := Meter.make node recording
  (⟨f.names⟩, { f with
    meters := f.meters.set ⟨f.names⟩ m
    recorder := m.register f.recorder
    names := f.names + 1 })

def addNode (s : NodeSpec) : Key Node × Flow :=
  let repeats := (Relationship.repeats [] s.relationships).map (.repeatedRelationship s.id ·.name)
  let f := f.note repeats
  (⟨f.names⟩, { f with nodes := f.nodes.set ⟨f.names⟩ (.ofSpec s), names := f.names + 1 })

def changeNode (n : Key Node) (change : Node → Node) : Flow :=
  { f with nodes := f.nodes.set n (change (f.nodes n)) }

def rename (n : Key Node) (name : String) : Flow :=
  f.changeNode n (fun node => { node with name })

def setTriggersOnAny (n : Key Node) (value : Bool) : Flow :=
  f.changeNode n (fun node => { node with triggersOnAny := value })

def addRelationship (n : Key Node) (r : Relationship) : Bool × Flow :=
  let (added, node) := (f.nodes n).addRelationship r
  (added, { f with nodes := f.nodes.set n node })

def attachOutgoing (n : Key Node) (e : Edge) : Except Refusal Flow :=
  match (f.nodes n).attachOutgoing e with
  | .ok node => .ok { f with nodes := f.nodes.set n node }
  | .error r => .error r

def attachIncoming (n : Key Node) (e : Edge) : Except Refusal Flow :=
  match (f.nodes n).attachIncoming e with
  | .ok node => .ok { f with nodes := f.nodes.set n node }
  | .error r => .error r

def detach (n : Key Node) (id : EdgeId) : Option Edge × Flow :=
  let (taken, node) := (f.nodes n).detach id
  (taken, { f with nodes := f.nodes.set n node })

def detachOutgoing (n : Key Node) (id : EdgeId) : Option Edge × Flow :=
  let (taken, node) := (f.nodes n).detachOutgoing id
  (taken, { f with nodes := f.nodes.set n node })

def connect (source destination : Key Node) (id : EdgeId) (relationship : Relationship)
    (queue : Key Queue) : Except Refusal Edge × Flow :=
  let (result, nodes) := FlowAdmission.connect f.nodes source destination id relationship queue
  let f := { f with nodes }
  match result with
  | .ok e => (.ok e, f.note [.connected e])
  | .error r => (.error r, f)

def disconnect (source destination : Key Node) (id : EdgeId) : Option Edge × Flow :=
  let (removed, nodes) := FlowAdmission.disconnect f.nodes source destination id
  let f := { f with nodes }
  match removed with
  | some e => (some e, f.note [.disconnected id])
  | none => (none, f)

def setSwitch (q : Key Queue) (full : Bool) : Flow :=
  { f with queues := f.queues.set q (.switch full) }

def enqueue (q : Key Queue) (size : UInt64) (times : Nat) : Flow :=
  match f.queues q with
  | .backlog b => { f with queues := f.queues.set q (.backlog (b.enqueueTimes size times)) }
  | .switch _ => f

def dequeue (q : Key Queue) (size : UInt64) : Bool × Flow :=
  match f.queues q with
  | .backlog b =>
    let (taken, b) := b.dequeue size
    (taken, { f with queues := f.queues.set q (.backlog b) })
  | .switch _ => (false, f)

def adjust (l : Key Ledger) (context name : String) (delta : Int64) : Flow :=
  { f with ledgers := f.ledgers.set l ((f.ledgers l).adjust context name delta) }

def reset (l : Key Ledger) (context name : String) : Option Counter × Flow :=
  let (before, ledger) := (f.ledgers l).reset context name
  (before, { f with ledgers := f.ledgers.set l ledger })

def draw (s : Key Sequence) : UInt64 × Flow :=
  let (n, s') := (f.sequences s).draw
  (n, { f with sequences := f.sequences.set s s' })

def meterEngaged (m : Key Meter) : Flow :=
  { f with recorder := (f.meters m).engage f.recorder }

def meterAdjustment (m : Key Meter) : Flow :=
  { f with recorder := (f.meters m).adjust f.recorder }

def meterPollable (m : Key Meter) (count : UInt64) : Bool × Flow :=
  let (written, meter, recorder) := (f.meters m).setPollable f.recorder count
  (written, { f with meters := f.meters.set m meter, recorder })

end Flow

end FlowAdmission
