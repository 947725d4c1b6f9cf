import FlowAdmission.Graph.Node

namespace FlowAdmission

/-- An answer and the number of relationships that were looked up for it. -/
structure Scan where
  answer : Bool
  lookups : Nat
deriving DecidableEq

namespace Scan

def afterOne (s : Scan) : Scan :=
  { s with lookups := s.lookups + 1 }

variable {α : Type} (isAvailable : α → Bool)

def covering (slack : Int) : List α → Scan
  | [] => ⟨true, 0⟩
  | r :: rs =>
    if isAvailable r then (covering slack rs).afterOne
    else if slack ≤ 0 then ⟨false, 1⟩
    else (covering (slack - 1) rs).afterOne

def finding : List α → Scan
  | [] => ⟨false, 0⟩
  | r :: rs => if isAvailable r then ⟨true, 1⟩ else (finding rs).afterOne

/-- Whether enough relationships are available. As many may be unavailable as there are more than
required; an unavailable one that exceeds this ends the search. -/
def satisfied (required : Nat) (relationships : List α) : Scan :=
  covering isAvailable ((relationships.length : Int) - required) relationships

def anyAvailable (relationships : List α) : Scan :=
  if relationships.isEmpty then ⟨true, 0⟩ else finding isAvailable relationships

end Scan

namespace Node

variable (full : Key Queue → Bool) (n : Node)

def satisfied (required : Nat) : Scan :=
  Scan.satisfied (·.all (Edge.isAvailable full)) required n.wiring.outlets

def anyAvailable : Scan :=
  Scan.anyAvailable (·.all (Edge.isAvailable full)) n.wiring.outlets

/-- Whether an outgoing edge is full; self-loops count here. -/
def anyFull : Bool :=
  n.outgoing.any (Edge.isFull full)

def heedsAny : Bool :=
  n.category == .processor && n.triggersOnAny

def isRestricted : Bool :=
  if n.heedsAny then !(n.anyAvailable full).answer else n.anyFull full

def pollable : List Edge :=
  if n.isRestricted full then n.incoming.filter Edge.isSelfLoop else n.incoming

end Node

end FlowAdmission
