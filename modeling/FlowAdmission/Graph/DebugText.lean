import FlowAdmission.Graph.Node
import FlowAdmission.Text.Quoted

namespace FlowAdmission

open Text

def NodeId.debug (id : NodeId) : String :=
  "NodeId(" ++ quoted id.text ++ ")"

def EdgeId.debug (id : EdgeId) : String :=
  "ConnectionId(" ++ quoted id.text ++ ")"

def Relationship.debug (r : Relationship) : String :=
  "Relationship \x7b name: " ++ quoted r.name ++
    ", description: " ++ quoted r.description ++ " \x7d"

def Edge.debug (full : Key Queue → Bool) (e : Edge) : String :=
  "Connection \x7b id: " ++ e.id.debug ++ ", source: " ++ e.source.debug ++
    ", destination: " ++ e.destination.debug ++ ", relationship: " ++ e.relationship.debug ++
    ", full: " ++ toString (e.isFull full) ++ " \x7d"

def Node.debug (n : Node) : String :=
  "FlowNode \x7b id: " ++ n.id.debug ++ ", name: " ++ quoted n.name ++
    ", component_type: " ++ quoted n.componentType ++
    ", category: " ++ n.category.title ++ ", .. \x7d"

end FlowAdmission
