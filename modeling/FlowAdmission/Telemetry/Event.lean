import FlowAdmission.Graph.Edge

namespace FlowAdmission

inductive Event
  | repeatedRelationship (node : NodeId) (relationship : String)
  | connected (edge : Edge)
  | disconnected (edge : EdgeId)
  | restricted (node : NodeId)
deriving DecidableEq

namespace Event

def level : Event → String
  | repeatedRelationship _ _ => "WARN"
  | connected _ => "DEBUG"
  | disconnected _ => "DEBUG"
  | restricted _ => "TRACE"

def message : Event → String
  | repeatedRelationship _ _ => "duplicate relationship declaration ignored"
  | connected _ => "connected"
  | disconnected _ => "disconnected"
  | restricted _ => "back pressure engaged, polling self-loops only"

def fields : Event → List (String × String)
  | repeatedRelationship n r => [("node_id", n.text), ("relationship", r)]
  | connected e => [
    ("connection_id", e.id.text),
    ("source", e.source.text),
    ("destination", e.destination.text),
    ("relationship", e.relationship.name),
    ("self_loop", toString e.isSelfLoop)]
  | disconnected e => [("connection_id", e.text)]
  | restricted n => [("node_id", n.text)]

end Event

end FlowAdmission
