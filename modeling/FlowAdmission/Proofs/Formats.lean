import FlowAdmission.Accounts.Format
import FlowAdmission.Graph.Format
import FlowAdmission.Pressure.Format
import FlowAdmission.Proofs.Records

namespace FlowAdmission

open Json

namespace Json

variable {α : Type} (name : String) (required : Bool)

def textSlot (get : α → String) (set : String → α → α) : Slot α :=
  ⟨String, name, required, .text, Value.text?, Reader.reads_text, get, set⟩

def integerSlot {β : Type} (expected : Expected) (narrow : Int → Option β) (get : α → β) (set : β → α → α) : Slot α :=
  ⟨β, name, required, .integer expected narrow, fun v => v.integer?.bind narrow,
    Reader.reads_integer expected narrow, get, set⟩

def unsigned? (n : Int) : Option UInt64 :=
  if 0 ≤ n then some n.toNat.toUInt64 else none

def signed? (n : Int) : Option Int64 :=
  if n ≤ Int64.maxValue.toInt then some (Int64.ofInt n) else none

end Json

namespace Relationship

def slots : List (Slot Relationship) := [
  textSlot "name" true (·.name) (fun v r => { r with name := v }),
  textSlot "description" false (·.description) (fun v r => { r with description := v })]

theorem reads_format : format.reader.Reads (Record.meaning slots (named "")) :=
  Record.reads_record rfl

theorem lawful_slots : Record.Lawful slots where
  names := by simp [slots, textSlot]
  get_set := by simp [slots, textSlot]
  get_other := by simp [slots, textSlot]
  ext := by
    rintro ⟨name, description⟩ ⟨name', description'⟩
    simp [slots, textSlot]

end Relationship

namespace NodeSpec

def categorySlot : Slot NodeSpec :=
  ⟨Category, "category", false, Category.reader, Value.label? Category.ofLabel?,
    Reader.reads_label _ _, (·.category), fun v n => { n with category := v }⟩

def relationshipsSlot : Slot NodeSpec :=
  ⟨List Relationship, "relationships", false, .list Relationship.format.reader,
    Value.list? (Record.meaning Relationship.slots (.named "")), Reader.reads_list Relationship.reads_format,
    (·.relationships), fun v n => { n with relationships := v }⟩

def triggerSlot : Slot NodeSpec :=
  ⟨Bool, "trigger_when_any_destination_available", false, .boolean, Value.boolean?, Reader.reads_boolean,
    (·.triggersOnAny), fun v n => { n with triggersOnAny := v }⟩

def slots : List (Slot NodeSpec) := [
  textSlot "id" true (·.id.text) (fun v n => { n with id := ⟨v⟩ }),
  textSlot "name" true (·.name) (fun v n => { n with name := v }),
  textSlot "component_type" true (·.componentType) (fun v n => { n with componentType := v }),
  categorySlot,
  relationshipsSlot,
  triggerSlot,
  integerSlot "max_concurrent_tasks" false .size unsigned? (·.tasks) (fun v n => { n with tasks := v })]

theorem reads_format : format.reader.Reads (Record.meaning slots blank) :=
  Record.reads_record rfl

theorem lawful_slots : Record.Lawful slots where
  names := by simp [slots, textSlot, integerSlot, categorySlot, relationshipsSlot, triggerSlot]
  get_set := by simp [slots, textSlot, integerSlot, categorySlot, relationshipsSlot, triggerSlot]
  get_other := by simp [slots, textSlot, integerSlot, categorySlot, relationshipsSlot, triggerSlot]
  ext := by
    rintro ⟨⟨id⟩, name, type, category, relationships, trigger, tasks⟩ ⟨⟨id'⟩, name', type', category', relationships', trigger', tasks'⟩
    simp [slots, textSlot, integerSlot, categorySlot, relationshipsSlot, triggerSlot]

end NodeSpec

namespace Thresholds

def slots : List (Slot Thresholds) := [
  integerSlot "object_threshold" false .unsigned unsigned? (·.objects) (fun v t => { t with objects := v }),
  integerSlot "data_size_threshold" false .unsigned unsigned? (·.bytes) (fun v t => { t with bytes := v })]

theorem reads_format : format.reader.Reads (Record.meaning slots standard) :=
  Record.reads_record rfl

theorem lawful_slots : Record.Lawful slots where
  names := by simp [slots, integerSlot]
  get_set := by simp [slots, integerSlot]
  get_other := by simp [slots, integerSlot]
  ext := by
    rintro ⟨objects, bytes⟩ ⟨objects', bytes'⟩
    simp [slots, integerSlot]

end Thresholds

namespace Counter

def slots : List (Slot Counter) := [
  textSlot "context" true (·.context) (fun v c => { c with context := v }),
  textSlot "name" true (·.name) (fun v c => { c with name := v }),
  integerSlot "value" true .signed signed? (·.value) (fun v c => { c with value := v })]

theorem reads_format : format.reader.Reads (Record.meaning slots ⟨"", "", 0⟩) :=
  Record.reads_record rfl

theorem lawful_slots : Record.Lawful slots where
  names := by simp [slots, textSlot, integerSlot]
  get_set := by simp [slots, textSlot, integerSlot]
  get_other := by simp [slots, textSlot, integerSlot]
  ext := by
    rintro ⟨context, name, value⟩ ⟨context', name', value'⟩
    simp [slots, textSlot, integerSlot]

end Counter

end FlowAdmission
