import FlowAdmission.Graph.Category
import FlowAdmission.Graph.Edge

namespace FlowAdmission

structure NodeSpec where
  id : NodeId
  name : String
  componentType : String
  category : Category
  relationships : List Relationship
  triggersOnAny : Bool
  tasks : UInt64
deriving DecidableEq

def NodeSpec.blank : NodeSpec :=
  ⟨⟨""⟩, "", "", .processor, [], false, 1⟩

end FlowAdmission
