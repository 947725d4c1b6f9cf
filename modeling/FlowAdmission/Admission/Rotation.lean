namespace FlowAdmission

/-- A counter of draws, shared by the tasks of a node; it starts again at zero after 2^64 draws. -/
structure Rotation where
  count : UInt64
deriving DecidableEq

namespace Rotation

def advance (r : Rotation) : UInt64 × Rotation :=
  (r.count, ⟨r.count + 1⟩)

def next (r : Rotation) (length : Nat) : Nat × Rotation :=
  (r.count.toNat % max 1 length, ⟨r.count + 1⟩)

end Rotation

end FlowAdmission
