import FlowAdmission.Graph.Node

namespace FlowAdmission.Node

variable (n : Node)

def ownLabel : String :=
  s!"{n.name} ({n.id.text})"

def typeLabel : String :=
  "All " ++ n.componentType ++ "'s"

def provenance : Except Refusal String :=
  match n.category with
  | .processor => .ok n.componentType
  | .inputPort => .ok "Input Port"
  | .outputPort => .ok "Output Port"
  | .remoteInputPort => .ok "Remote Input Port"
  | .remoteOutputPort => .ok "Remote Output Port"
  | .funnel => .ok "Funnel"
  | .statelessGroup => .error (.noProvenance n.category)

end FlowAdmission.Node
