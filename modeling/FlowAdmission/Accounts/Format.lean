import FlowAdmission.Accounts.Ledger
import FlowAdmission.Json.Record
import FlowAdmission.Json.Written

namespace FlowAdmission.Counter

open Json

def format : RecordFormat Counter where
  name := "Counter"
  fields := [
    ⟨"context", true, Reader.text.map (fun v c => { c with context := v })⟩,
    ⟨"name", true, Reader.text.map (fun v c => { c with name := v })⟩,
    ⟨"value", true, (Reader.signed .signed).map (fun v c => { c with value := v })⟩]
  blank := ⟨"", "", 0⟩

def written (c : Counter) : List Char :=
  writtenObject [
    ("context", writtenText c.context),
    ("name", writtenText c.name),
    ("value", writtenInt c.value.toInt)]

end FlowAdmission.Counter
