import FlowAdmission.Json.Reader

namespace FlowAdmission.Json

structure Field (α : Type) where
  name : String
  required : Bool
  read : Reader (α → α)

/-- How a record is read; `blank` has the value of every part that need not be given. -/
structure RecordFormat (α : Type) where
  name : String
  fields : List (Field α)
  blank : α

namespace RecordFormat

variable {α : Type} (format : RecordFormat α)

structure Draft (α : Type) where
  record : α
  met : List String

def field? (name : String) : Option (Field α) :=
  format.fields.find? (·.name == name)

/-- A field that comes twice is noticed behind its key, the blanks after it, and the brace that may
follow. -/
def repeated (name : String) (s : List Char) : Fault :=
  match blanks s with
  | '\x7d' :: r => .before (.repeatedField name) r
  | t => .before (.repeatedField name) t

def member (draft : Draft α) (s : List Char) : Except Fault (Draft α × List Char) :=
  match text s with
  | .error f => .error f
  | .ok (cs, r) =>
    match format.field? (String.ofList cs) with
    | none =>
      match colon r with
      | .error f => .error f
      | .ok t =>
        match skipValue t with
        | .error f => .error f
        | .ok u => .ok (draft, u)
    | some field =>
      if draft.met.contains field.name then .error (repeated field.name r)
      else
        match colon r with
        | .error f => .error f
        | .ok t =>
          match field.read.run t with
          | .error f => .error f
          | .ok (change, u) => .ok (⟨change draft.record, field.name :: draft.met⟩, u)

variable {format} in
theorem member_length {draft draft' : Draft α} {s r : List Char}
    (h : format.member draft s = .ok (draft', r)) : r.length < s.length := by
  unfold member at h
  split at h <;> try contradiction
  rename_i ht
  have := text_length ht
  split at h
  · split at h <;> try contradiction
    rename_i hc
    have := colon_length hc
    split at h <;> try contradiction
    rename_i hv
    have := skipValue_length hv
    cases h
    omega
  · rename_i field _
    split at h <;> try contradiction
    split at h <;> try contradiction
    rename_i hc
    have := colon_length hc
    split at h <;> try contradiction
    rename_i hv
    have := field.read.shorter hv
    cases h
    omega

def members (draft : Draft α) (first : Bool) (s : List Char) : Except Fault (Draft α × List Char) :=
  match _ht : objectTurn first s with
  | .error f => .error f
  | .ok (.done r) => .ok (draft, r)
  | .ok (.item t) =>
    match _hm : format.member draft t with
    | .error f => .error f
    | .ok (draft, u) => members draft false u
termination_by s.length
decreasing_by
  have := objectTurn_length (.inr _ht)
  have := member_length _hm
  omega

theorem members_eq (draft : Draft α) (first : Bool) (s : List Char) :
    format.members draft first s =
      match objectTurn first s with
      | .error f => .error f
      | .ok (.done r) => .ok (draft, r)
      | .ok (.item t) =>
        match format.member draft t with
        | .error f => .error f
        | .ok (draft, u) => format.members draft false u := by
  rw [members]
  split <;> rename_i ht <;> simp only [ht]
  split <;> rename_i hm <;> simp only [hm]

variable {format} in
theorem members_length {draft draft' : Draft α} {first : Bool} {s r : List Char}
    (h : format.members draft first s = .ok (draft', r)) : r.length < s.length := by
  fun_induction members format draft first s with
  | case1 => simp at h
  | case2 draft first s t ht =>
    cases h
    exact objectTurn_length (.inl ht)
  | case3 => simp at h
  | case4 draft first s t ht d u hm ih =>
    have := objectTurn_length (.inr ht)
    have := member_length hm
    have := ih h
    omega

def missing? (draft : Draft α) : Option (Field α) :=
  format.fields.find? (fun f => f.required && !draft.met.contains f.name)

def object (s : List Char) : Except Fault (α × List Char) :=
  match format.members ⟨format.blank, []⟩ true s with
  | .error f => .error f
  | .ok (draft, r) =>
    match format.missing? draft with
    | some f => .error (.before (.missingField f.name) r)
    | none => .ok (draft.record, r)

variable {format} in
theorem object_length {s r : List Char} {a : α} (h : format.object s = .ok (a, r)) :
    r.length < s.length := by
  unfold object at h
  split at h <;> try contradiction
  rename_i hm
  have := members_length hm
  split at h <;> try contradiction
  cases h
  exact this

def closeElements (s : List Char) : Except Fault (List Char) :=
  match blanks s with
  | [] => .error ⟨.endInList, 0⟩
  | ']' :: r => .ok r
  | ',' :: r =>
    match blanks r with
    | ']' :: t => .error (.inside .trailingComma (']' :: t))
    | t => .error (.inside .trailingCharacters t)
  | t => .error (.inside .trailingCharacters t)

theorem closeElements_length {s r : List Char} (h : closeElements s = .ok r) :
    r.length < s.length := by
  unfold closeElements at h
  split at h <;> try contradiction
  · cases h
    exact length_lt_of_blanks ‹_›
  · split at h <;> contradiction

def elements (first : Bool) (record : α) (s : List Char) :
    List (Field α) → Except Fault (α × List Char)
  | [] =>
    match closeElements s with
    | .error f => .error f
    | .ok r => .ok (record, r)
  | field :: fields =>
    match listTurn first s with
    | .error f => .error f
    | .ok (.done r) =>
      match (field :: fields).findIdx? (·.required) with
      | none => .ok (record, r)
      | some i =>
        let length := format.fields.length - (fields.length + 1) + i
        .error (.before (.tooShort length format.name format.fields.length) r)
    | .ok (.item t) =>
      match field.read.run t with
      | .error f => .error f
      | .ok (change, u) => elements false (change record) u fields

variable {format} in
theorem elements_length {first : Bool} {record record' : α} {s r : List Char}
    {fields : List (Field α)} (h : format.elements first record s fields = .ok (record', r)) :
    r.length < s.length := by
  induction fields generalizing first record s with
  | nil =>
    unfold elements at h
    split at h <;> try contradiction
    rename_i hc
    cases h
    exact closeElements_length hc
  | cons field fields ih =>
    unfold elements at h
    split at h <;> try contradiction
    · rename_i ht
      split at h <;> try contradiction
      cases h
      exact listTurn_done ht
    · rename_i ht
      have := listTurn_item ht
      split at h <;> try contradiction
      rename_i hr
      have := field.read.shorter hr
      have := ih h
      omega

/-- A record is an object of its fields in any order, or a list of them in the order of the
format. -/
def reader : Reader α where
  run s :=
    match blanks s with
    | '\x7b' :: r => format.object r
    | '[' :: r => format.elements true format.blank r format.fields
    | t => .error (mismatch (.record format.name) t)
  shorter h := by
    split at h <;> try contradiction
    · rename_i hb
      have := length_lt_of_blanks hb
      have := object_length h
      omega
    · rename_i hb
      have := length_lt_of_blanks hb
      have := elements_length h
      omega

end RecordFormat

end FlowAdmission.Json
