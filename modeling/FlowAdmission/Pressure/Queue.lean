import FlowAdmission.Pressure.Thresholds

namespace FlowAdmission

structure Backlog where
  thresholds : Thresholds
  objects : UInt64
  bytes : UInt64
deriving DecidableEq

namespace Backlog

def empty (t : Thresholds) : Backlog :=
  ⟨t, 0, 0⟩

def isEmpty (b : Backlog) : Bool :=
  b.objects == 0

def isFull (b : Backlog) : Bool :=
  Thresholds.reached b.thresholds.objects b.objects || Thresholds.reached b.thresholds.bytes b.bytes

def enqueue (b : Backlog) (size : UInt64) : Backlog :=
  { b with objects := b.objects + 1, bytes := b.bytes + size }

def enqueueTimes (b : Backlog) (size : UInt64) : Nat → Backlog
  | 0 => b
  | n + 1 => enqueueTimes (b.enqueue size) size n

/-- Takes one object of the given size; the byte count stops at zero. Nothing is taken from an
empty backlog. -/
def dequeue (b : Backlog) (size : UInt64) : Bool × Backlog :=
  if b.isEmpty then (false, b)
  else (true, { b with
    objects := b.objects - 1
    bytes := if size ≤ b.bytes then b.bytes - size else 0 })

end Backlog

inductive Queue
  | backlog (b : Backlog)
  | switch (full : Bool)
deriving DecidableEq

namespace Queue

def isFull : Queue → Bool
  | backlog b => b.isFull
  | switch full => full

end Queue

end FlowAdmission
