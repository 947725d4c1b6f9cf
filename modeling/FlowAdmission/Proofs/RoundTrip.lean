import FlowAdmission.Proofs.Formats
import FlowAdmission.Proofs.Rendering

namespace FlowAdmission

open Json

namespace Json

theorem integer?_integerValue {n : Int} (hlow : -9223372036854775808 ≤ n) (hhigh : n < UInt64.size) :
    (integerValue n).integer? = some n := by
  have hdigits : Nat.ofDigitChars 10 (writtenNat n.natAbs) 0 = n.natAbs := Nat.ofDigitChars_ten_toDigits
  have hsize : UInt64.size = 18446744073709551616 := rfl
  simp only [Value.integer?, integerValue, Numeral.integer?, and_self, if_true, hdigits, decide_eq_true_eq]
  split
  · rw [if_pos (by omega)]
    exact congrArg some (by omega)
  · rw [if_pos (by omega)]
    exact congrArg some (by omega)

theorem integer?_unsigned (n : UInt64) : (integerValue n.toNat).integer?.bind unsigned? = some n := by
  have hlt := n.toNat_lt_size
  rw [integer?_integerValue (by omega) (by omega)]
  simp [unsigned?]

theorem integer?_signed (n : Int64) : (integerValue n.toInt).integer?.bind signed? = some n := by
  have hlow := n.le_toInt
  have hhigh := n.toInt_lt
  have hmax : Int64.maxValue.toInt = 9223372036854775807 := rfl
  have hsize : UInt64.size = 18446744073709551616 := rfl
  rw [integer?_integerValue (by omega) (by omega)]
  simp only [Option.bind_some, signed?, hmax]
  rw [if_pos (by omega), Int64.ofInt_toInt]

theorem parse_written {α : Type} {reader : Reader α} {meaning : Value → Option α} (h : reader.Reads meaning)
    {v : Value} {s : List Char} {a : α} (hs : Renders (.value v) s) (ha : meaning v = some a) :
    parse reader s = .ok a := by
  have hparse := parse_value h blank_nil hs blank_nil
  rw [List.nil_append, List.append_nil, ha] at hparse
  cases hread : parse reader s with
  | error f => rw [hread] at hparse; cases hparse
  | ok b => rw [hread] at hparse; cases hparse; rfl

end Json

namespace Relationship

def json (r : Relationship) : Value :=
  .object [(some "name", .text (some r.name)), (some "description", .text (some r.description))]

theorem renders_written (r : Relationship) : Renders (.value r.json) r.written :=
  renders_object (.cons ⟨rfl, renders_text _⟩ (.cons ⟨rfl, renders_text _⟩ .nil))

theorem meaning_json (r : Relationship) : Record.meaning slots (named "") r.json = some r := by
  refine (Record.meaning_object_iff lawful_slots _ r).mpr ⟨by simp, ?_⟩
  simp only [slots, List.forall_mem_cons, List.not_mem_nil, false_implies, implies_true, and_true]
  exact ⟨.inl ⟨_, rfl, rfl⟩, .inl ⟨_, rfl, rfl⟩⟩

end Relationship

namespace NodeSpec

def json (n : NodeSpec) : Value :=
  .object [
    (some "id", .text (some n.id.text)),
    (some "name", .text (some n.name)),
    (some "component_type", .text (some n.componentType)),
    (some "category", .text (some n.category.label)),
    (some "relationships", .list (n.relationships.map Relationship.json)),
    (some "trigger_when_any_destination_available", .boolean n.triggersOnAny),
    (some "max_concurrent_tasks", integerValue n.tasks.toNat)]

theorem renders_written (n : NodeSpec) : Renders (.value n.json) n.written := by
  have hrelationships : Renders (.value (.list (n.relationships.map Relationship.json)))
      (writtenList (n.relationships.map Relationship.written)) := by
    refine renders_list ?_
    rw [List.forall₂_map_left_iff, List.forall₂_map_right_iff, List.forall₂_same]
    exact fun r _ => r.renders_written
  exact renders_object (.cons ⟨rfl, renders_text _⟩ (.cons ⟨rfl, renders_text _⟩ (.cons ⟨rfl, renders_text _⟩
    (.cons ⟨rfl, renders_text _⟩ (.cons ⟨rfl, hrelationships⟩ (.cons ⟨rfl, renders_bool _⟩
      (.cons ⟨rfl, renders_nat _⟩ .nil)))))))

theorem mapM_json (rs : List Relationship) :
    (rs.map Relationship.json).mapM (Record.meaning Relationship.slots (.named "")) = some rs := by
  induction rs with
  | nil => rfl
  | cons r rs ih =>
    rw [List.map_cons, List.mapM_cons, r.meaning_json, ih]
    rfl

theorem meaning_json (n : NodeSpec) : Record.meaning slots blank n.json = some n := by
  refine (Record.meaning_object_iff lawful_slots _ n).mpr ⟨by simp, ?_⟩
  simp only [slots, List.forall_mem_cons, List.not_mem_nil, false_implies, implies_true, and_true]
  exact ⟨.inl ⟨_, rfl, rfl⟩, .inl ⟨_, rfl, rfl⟩, .inl ⟨_, rfl, rfl⟩,
    .inl ⟨_, rfl, Category.ofLabel?_label n.category⟩, .inl ⟨_, rfl, mapM_json n.relationships⟩,
    .inl ⟨_, rfl, rfl⟩, .inl ⟨_, rfl, integer?_unsigned n.tasks⟩⟩

theorem ofText_written (n : NodeSpec) : ofText (.ofList n.written) = .ok n := by
  rw [ofText, String.toList_ofList, parse_written reads_format n.renders_written n.meaning_json]

end NodeSpec

namespace Thresholds

def json (t : Thresholds) : Value :=
  .object [
    (some "object_threshold", integerValue t.objects.toNat),
    (some "data_size_threshold", integerValue t.bytes.toNat)]

theorem renders_written (t : Thresholds) : Renders (.value t.json) t.written :=
  renders_object (.cons ⟨rfl, renders_nat _⟩ (.cons ⟨rfl, renders_nat _⟩ .nil))

theorem meaning_json (t : Thresholds) : Record.meaning slots standard t.json = some t := by
  refine (Record.meaning_object_iff lawful_slots _ t).mpr ⟨by simp, ?_⟩
  simp only [slots, List.forall_mem_cons, List.not_mem_nil, false_implies, implies_true, and_true]
  exact ⟨.inl ⟨_, rfl, integer?_unsigned t.objects⟩, .inl ⟨_, rfl, integer?_unsigned t.bytes⟩⟩

end Thresholds

namespace Counter

def json (c : Counter) : Value :=
  .object [
    (some "context", .text (some c.context)),
    (some "name", .text (some c.name)),
    (some "value", integerValue c.value.toInt)]

theorem renders_written (c : Counter) : Renders (.value c.json) c.written :=
  renders_object (.cons ⟨rfl, renders_text _⟩ (.cons ⟨rfl, renders_text _⟩ (.cons ⟨rfl, renders_int _⟩ .nil)))

theorem meaning_json (c : Counter) : Record.meaning slots ⟨"", "", 0⟩ c.json = some c := by
  refine (Record.meaning_object_iff lawful_slots _ c).mpr ⟨by simp, ?_⟩
  simp only [slots, List.forall_mem_cons, List.not_mem_nil, false_implies, implies_true, and_true]
  exact ⟨.inl ⟨_, rfl, rfl⟩, .inl ⟨_, rfl, rfl⟩, .inl ⟨_, rfl, integer?_signed c.value⟩⟩

end Counter

theorem written_parses_back :
    (∀ n : NodeSpec, NodeSpec.ofText (.ofList n.written) = .ok n) ∧
    (∀ t : Thresholds, parse Thresholds.format.reader t.written = .ok t) ∧
    (∀ r : Relationship, parse Relationship.format.reader r.written = .ok r) ∧
    ∀ c : Counter, parse Counter.format.reader c.written = .ok c := by
  refine ⟨NodeSpec.ofText_written, fun t => ?_, fun r => ?_, fun c => ?_⟩
  · exact parse_written Thresholds.reads_format t.renders_written t.meaning_json
  · exact parse_written Relationship.reads_format r.renders_written r.meaning_json
  · exact parse_written Counter.reads_format c.renders_written c.meaning_json

end FlowAdmission
