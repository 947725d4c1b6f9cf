import FlowAdmission.Store
import FlowAdmission.Graph.Relationship
import FlowAdmission.Pressure.Queue

namespace FlowAdmission

structure NodeId where
  text : String
deriving DecidableEq

structure EdgeId where
  text : String
deriving DecidableEq

/-- A directed edge; its queue lives in the flow and may serve several edges. -/
structure Edge where
  id : EdgeId
  source : NodeId
  destination : NodeId
  relationship : Relationship
  queue : Key Queue
deriving DecidableEq

namespace Edge

variable (full : Key Queue → Bool)

def isSelfLoop (e : Edge) : Bool :=
  e.source == e.destination

def isFull (e : Edge) : Bool :=
  full e.queue

def isAvailable (e : Edge) : Bool :=
  e.isSelfLoop || !e.isFull full

def display (e : Edge) : String :=
  s!"Connection[id={e.id.text}, {e.source.text} -({e.relationship.name})-> {e.destination.text}]"

end Edge

end FlowAdmission
