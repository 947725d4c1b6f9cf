import FlowAdmission.Graph.Node

namespace FlowAdmission

variable (nodes : Store Node) (source destination : Key Node)

/-- An edge from one node to another, which may be the same, attached at both ends. When the second
end refuses, the first is taken off again. -/
def connect (id : EdgeId) (relationship : Relationship) (queue : Key Queue) :
    Except Refusal Edge × Store Node :=
  let e : Edge := ⟨id, (nodes source).id, (nodes destination).id, relationship, queue⟩
  match (nodes source).attachOutgoing e with
  | .error r => (.error r, nodes)
  | .ok out =>
    let wired := nodes.set source out
    match (wired destination).attachIncoming e with
    | .error r => (.error r, wired.set source ((wired source).detachOutgoing id).2)
    | .ok back => (.ok e, wired.set destination back)

def disconnect (id : EdgeId) : Option Edge × Store Node :=
  let (first, out) := (nodes source).detach id
  let freed := nodes.set source out
  let (second, back) := (freed destination).detach id
  (first.or second, freed.set destination back)

end FlowAdmission
