namespace FlowAdmission

/-- The numbers of objects and bytes at which a queue counts as full; zero sets no bound. -/
structure Thresholds where
  objects : UInt64
  bytes : UInt64
deriving DecidableEq

namespace Thresholds

def standard : Thresholds :=
  ⟨10000, 1073741824⟩

def ofObjects (n : UInt64) : Thresholds :=
  ⟨n, 0⟩

def reached (bound amount : UInt64) : Bool :=
  0 < bound && bound ≤ amount

end Thresholds

end FlowAdmission
