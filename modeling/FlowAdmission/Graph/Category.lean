namespace FlowAdmission

inductive Category
  | processor
  | inputPort
  | outputPort
  | remoteInputPort
  | remoteOutputPort
  | funnel
  | statelessGroup
deriving DecidableEq

namespace Category

def all : List Category :=
  [processor, inputPort, outputPort, remoteInputPort, remoteOutputPort, funnel, statelessGroup]

def label : Category → String
  | processor => "PROCESSOR"
  | inputPort => "INPUT_PORT"
  | outputPort => "OUTPUT_PORT"
  | remoteInputPort => "REMOTE_INPUT_PORT"
  | remoteOutputPort => "REMOTE_OUTPUT_PORT"
  | funnel => "FUNNEL"
  | statelessGroup => "STATELESS_GROUP"

def title : Category → String
  | processor => "Processor"
  | inputPort => "InputPort"
  | outputPort => "OutputPort"
  | remoteInputPort => "RemoteInputPort"
  | remoteOutputPort => "RemoteOutputPort"
  | funnel => "Funnel"
  | statelessGroup => "StatelessGroup"

def ofLabel? (text : String) : Option Category :=
  all.find? (·.label == text)

theorem ofLabel?_label (c : Category) : ofLabel? c.label = some c := by
  cases c <;> decide

theorem label_of_ofLabel? {text : String} {c : Category} (h : ofLabel? text = some c) :
    c.label = text := by
  have := List.find?_some h
  simpa using this

end Category

instance : Inhabited Category := ⟨.processor⟩

end FlowAdmission
