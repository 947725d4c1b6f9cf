import FlowAdmission.Graph.NodeSpec
import FlowAdmission.Graph.Refusal
import FlowAdmission.Json.Record
import FlowAdmission.Json.Written

namespace FlowAdmission

open Json

namespace Category

def reader : Reader Category :=
  .label (all.map label) ofLabel?

def named (text : String) : Except Refusal Category :=
  match ofLabel? text with
  | some c => .ok c
  | none => .error (.unknownCategory text)

def written (c : Category) : List Char :=
  writtenText c.label

end Category

namespace Relationship

def format : RecordFormat Relationship where
  name := "Relationship"
  fields := [
    ⟨"name", true, Reader.text.map (fun v r => { r with name := v })⟩,
    ⟨"description", false, Reader.text.map (fun v r => { r with description := v })⟩]
  blank := .named ""

def written (r : Relationship) : List Char :=
  writtenObject [("name", writtenText r.name), ("description", writtenText r.description)]

end Relationship

namespace NodeSpec

def format : RecordFormat NodeSpec where
  name := "NodeConfig"
  fields := [
    ⟨"id", true, Reader.text.map (fun v n => { n with id := ⟨v⟩ })⟩,
    ⟨"name", true, Reader.text.map (fun v n => { n with name := v })⟩,
    ⟨"component_type", true, Reader.text.map (fun v n => { n with componentType := v })⟩,
    ⟨"category", false, Category.reader.map (fun v n => { n with category := v })⟩,
    ⟨"relationships", false,
      (Reader.list Relationship.format.reader).map (fun v n => { n with relationships := v })⟩,
    ⟨"trigger_when_any_destination_available", false,
      Reader.boolean.map (fun v n => { n with triggersOnAny := v })⟩,
    ⟨"max_concurrent_tasks", false,
      (Reader.unsigned .size).map (fun v n => { n with tasks := v })⟩]
  blank := blank

def written (n : NodeSpec) : List Char :=
  writtenObject [
    ("id", writtenText n.id.text),
    ("name", writtenText n.name),
    ("component_type", writtenText n.componentType),
    ("category", n.category.written),
    ("relationships", writtenList (n.relationships.map Relationship.written)),
    ("trigger_when_any_destination_available", writtenBool n.triggersOnAny),
    ("max_concurrent_tasks", writtenNat n.tasks.toNat)]

def ofText (s : String) : Except Refusal NodeSpec :=
  match parse format.reader s.toList with
  | .ok n => .ok n
  | .error f => .error (.misconfigured (f.message s.toList))

end NodeSpec

end FlowAdmission
