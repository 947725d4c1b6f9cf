import FlowAdmission.Graph.Category
import FlowAdmission.Graph.Edge

namespace FlowAdmission

inductive Refusal
  | noProvenance (category : Category)
  | unknownCategory (label : String)
  | undeclared (node : NodeId) (relationship : String)
  | foreign (node : NodeId) (edge : EdgeId)
  | alreadyAttached (edge : EdgeId)
  | misconfigured (detail : String)
deriving DecidableEq

namespace Refusal

def message : Refusal → String
  | noProvenance c => s!"connectable type is {c.label}"
  | unknownCategory label => s!"unknown node category: {label}"
  | undeclared n r => s!"node {n.text} does not declare relationship '{r}'"
  | foreign n e => s!"connection {e.text} does not touch node {n.text}"
  | alreadyAttached e => s!"connection {e.text} is already attached"
  | misconfigured detail => s!"configuration error: {detail}"

end Refusal

end FlowAdmission
