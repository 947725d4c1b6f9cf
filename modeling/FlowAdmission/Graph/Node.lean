import FlowAdmission.Graph.NodeSpec
import FlowAdmission.Graph.Refusal
import FlowAdmission.Graph.Wiring

namespace FlowAdmission

structure Node where
  id : NodeId
  name : String
  componentType : String
  category : Category
  triggersOnAny : Bool
  tasks : UInt64
  wiring : Wiring
deriving DecidableEq

namespace Node

def ofSpec (s : NodeSpec) : Node where
  id := s.id
  name := s.name
  componentType := s.componentType
  category := s.category
  triggersOnAny := s.triggersOnAny
  tasks := max 1 s.tasks
  wiring := .ofRelationships (Relationship.firsts s.relationships)

variable (n : Node)

def relationships : List Relationship :=
  n.wiring.relationships

def edgesOf (relationship : Relationship) : List Edge :=
  n.wiring.edgesOf relationship.name

def outgoing : List Edge :=
  n.wiring.outgoing

def incoming : List Edge :=
  n.wiring.incoming

def addRelationship (r : Relationship) : Bool × Node :=
  if n.wiring.declares r.name then (false, n)
  else (true, { n with wiring := n.wiring.declare r })

def attachOutgoing (e : Edge) : Except Refusal Node :=
  if e.source ≠ n.id then .error (.foreign n.id e.id)
  else if !n.wiring.declares e.relationship.name then
    .error (.undeclared n.id e.relationship.name)
  else if n.wiring.hasOutgoing e.id then .error (.alreadyAttached e.id)
  else .ok { n with wiring := n.wiring.addOutgoing e }

def attachIncoming (e : Edge) : Except Refusal Node :=
  if e.destination ≠ n.id then .error (.foreign n.id e.id)
  else if n.wiring.hasIncoming e.id then .error (.alreadyAttached e.id)
  else .ok { n with wiring := n.wiring.addIncoming e }

def detachOutgoing (id : EdgeId) : Option Edge × Node :=
  let (taken, w) := n.wiring.takeOutgoing id
  (taken, { n with wiring := w })

def detach (id : EdgeId) : Option Edge × Node :=
  let (out, w) := n.wiring.takeOutgoing id
  let (back, w) := w.takeIncoming id
  (out.or back, { n with wiring := w })

def display : String :=
  s!"{n.componentType}[id={n.id.text}, name={n.name}]"

end Node

end FlowAdmission
