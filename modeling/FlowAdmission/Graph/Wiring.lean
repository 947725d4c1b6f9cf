import FlowAdmission.Graph.Edge
import FlowAdmission.Keyed

namespace FlowAdmission

structure Bundle where
  relationship : String
  edges : List Edge
deriving DecidableEq

structure Wiring where
  relationships : List Relationship
  bundles : List Bundle
  incoming : List Edge
deriving DecidableEq

def Edge.hasId (id : EdgeId) (e : Edge) : Bool :=
  e.id == id

namespace Bundle

def append (e : Edge) (b : Bundle) : Bundle :=
  { b with edges := b.edges ++ [e] }

def attach (e : Edge) (bs : List Bundle) : List Bundle :=
  Keyed.entry relationship e.relationship.name ⟨e.relationship.name, []⟩ (append e) bs

def without (id : EdgeId) (b : Bundle) : Bundle :=
  { b with edges := b.edges.eraseP (Edge.hasId id) }

end Bundle

namespace Wiring

variable (w : Wiring)

def ofRelationships (rs : List Relationship) : Wiring :=
  ⟨rs, [], []⟩

def declares (name : String) : Bool :=
  w.relationships.any (·.name == name)

def declare (r : Relationship) : Wiring :=
  { w with relationships := w.relationships ++ [r] }

def edgesOf (name : String) : List Edge :=
  ((Keyed.get? Bundle.relationship name w.bundles).map Bundle.edges).getD []

def outlets : List (List Edge) :=
  w.relationships.map (fun r => w.edgesOf r.name)

def outgoing : List Edge :=
  w.outlets.flatten

def hasOutgoing (id : EdgeId) : Bool :=
  w.bundles.any (·.edges.any (Edge.hasId id))

def hasIncoming (id : EdgeId) : Bool :=
  w.incoming.any (Edge.hasId id)

def addOutgoing (e : Edge) : Wiring :=
  { w with bundles := Bundle.attach e w.bundles }

def addIncoming (e : Edge) : Wiring :=
  { w with incoming := w.incoming ++ [e] }

/-- Takes the first edge with an id out of every bundle and answers the last one taken. A bundle
left without edges goes too. -/
def takeOutgoing (id : EdgeId) : Option Edge × Wiring :=
  ((w.bundles.filterMap (·.edges.find? (Edge.hasId id))).getLast?,
    { w with bundles := (w.bundles.map (Bundle.without id)).filter (!·.edges.isEmpty) })

def takeIncoming (id : EdgeId) : Option Edge × Wiring :=
  (w.incoming.find? (Edge.hasId id), { w with incoming := w.incoming.eraseP (Edge.hasId id) })

end Wiring

end FlowAdmission
