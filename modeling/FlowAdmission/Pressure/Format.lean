import FlowAdmission.Pressure.Thresholds
import FlowAdmission.Json.Record
import FlowAdmission.Json.Written

namespace FlowAdmission.Thresholds

open Json

def format : RecordFormat Thresholds where
  name := "BackPressureConfig"
  fields := [
    ⟨"object_threshold", false,
      (Reader.unsigned .unsigned).map (fun v t => { t with objects := v })⟩,
    ⟨"data_size_threshold", false,
      (Reader.unsigned .unsigned).map (fun v t => { t with bytes := v })⟩]
  blank := standard

def written (t : Thresholds) : List Char :=
  writtenObject [
    ("object_threshold", writtenNat t.objects.toNat),
    ("data_size_threshold", writtenNat t.bytes.toNat)]

end FlowAdmission.Thresholds
