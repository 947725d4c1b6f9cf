namespace FlowAdmission

structure Sequence where
  following : UInt64
deriving DecidableEq

namespace Sequence

def draw (s : Sequence) : UInt64 × Sequence :=
  (s.following, ⟨s.following + 1⟩)

end Sequence

end FlowAdmission
