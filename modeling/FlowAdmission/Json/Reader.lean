import FlowAdmission.Json.Skip

namespace FlowAdmission.Json

/-- Reads a value from the front of a text and leaves a shorter one. -/
structure Reader (α : Type) where
  run : List Char → Except Fault (α × List Char)
  shorter : ∀ {s r : List Char} {a : α}, run s = .ok (a, r) → r.length < s.length

/-- What is wrong with a value at the front of `s` where another kind is expected. A text or number
is read to its end, a list or object is not. -/
def mismatch (expected : Expected) (s : List Char) : Fault :=
  let wrong (found : Found) (r : List Char) : Fault := .before (.wrongType found expected) r
  let word (w : List Char) (found : Found) : Fault :=
    match literal w s with
    | .error f => f
    | .ok r => wrong found r
  match s with
  | [] => ⟨.endInValue, 0⟩
  | 'n' :: _ => word null .null
  | 't' :: _ => word yes (.boolean true)
  | 'f' :: _ => word no (.boolean false)
  | '"' :: r =>
    match text r with
    | .error f => f
    | .ok (cs, t) => wrong (.text (String.ofList cs)) t
  | '[' :: _ => wrong .sequence s
  | '\x7b' :: _ => wrong .map s
  | c :: _ =>
    if startsNumber c then
      match number s with
      | .error f => f
      | .ok (n, r) => wrong n.found r
    else .inside .expectedValue s

namespace Reader

variable {α β : Type}

def map (f : α → β) (r : Reader α) : Reader β where
  run s :=
    match r.run s with
    | .error e => .error e
    | .ok (a, t) => .ok (f a, t)
  shorter h := by
    split at h <;> try contradiction
    cases h
    exact r.shorter ‹_›

def text : Reader String where
  run s :=
    match blanks s with
    | '"' :: r =>
      match Json.text r with
      | .error f => .error f
      | .ok (cs, t) => .ok (String.ofList cs, t)
    | t => .error (mismatch .text t)
  shorter h := by
    split at h <;> try contradiction
    rename_i hb
    have := length_lt_of_blanks hb
    split at h <;> try contradiction
    rename_i ht
    have := text_length ht
    cases h
    omega

def boolean : Reader Bool where
  run s :=
    match blanks s with
    | 't' :: r =>
      match literal yes ('t' :: r) with
      | .error f => .error f
      | .ok t => .ok (true, t)
    | 'f' :: r =>
      match literal no ('f' :: r) with
      | .error f => .error f
      | .ok t => .ok (false, t)
    | t => .error (mismatch .boolean t)
  shorter h := by
    split at h <;> try contradiction
    all_goals
      rename_i hb
      have := length_lt_of_blanks hb
      split at h <;> try contradiction
      rename_i ht
      have := literal_length ht
      cases h
      simp only [yes, no, List.length_cons, List.length_nil] at this
      omega

def integer (expected : Expected) (narrow : Int → Option α) : Reader α where
  run s :=
    match blanks s with
    | [] => .error ⟨.endInValue, 0⟩
    | c :: r =>
      if startsNumber c then
        match number (c :: r) with
        | .error f => .error f
        | .ok (.integer n, t) =>
          match narrow n with
          | some a => .ok (a, t)
          | none => .error (.before (.wrongValue n expected) t)
        | .ok (n, t) => .error (.before (.wrongType n.found expected) t)
      else .error (mismatch expected (c :: r))
  shorter h := by
    split at h <;> try contradiction
    rename_i hb
    have := length_lt_of_blanks hb
    split at h <;> try contradiction
    split at h <;> try contradiction
    rename_i hn
    have := number_length hn
    split at h <;> try contradiction
    cases h
    simp only [List.length_cons] at this
    omega

def unsigned (expected : Expected) : Reader UInt64 :=
  integer expected (fun n => if 0 ≤ n then some n.toNat.toUInt64 else none)

def signed (expected : Expected) : Reader Int64 :=
  integer expected (fun n => if n ≤ Int64.maxValue.toInt then some (Int64.ofInt n) else none)

end Reader

inductive Turn
  | done (rest : List Char)
  | item (rest : List Char)

def listTurn (first : Bool) (s : List Char) : Except Fault Turn :=
  match blanks s with
  | [] => .error ⟨.endInList, 0⟩
  | c :: r =>
    if c = ']' then .ok (.done r)
    else if first then .ok (.item (c :: r))
    else if c = ',' then
      match blanks r with
      | [] => .error ⟨.endInValue, 0⟩
      | d :: t => if d = ']' then .error (.inside .trailingComma (d :: t)) else .ok (.item (d :: t))
    else .error (.inside .expectedCommaOrBracket (c :: r))

theorem listTurn_done {first : Bool} {s r : List Char} (h : listTurn first s = .ok (.done r)) :
    r.length < s.length := by
  unfold listTurn at h
  split at h <;> try contradiction
  rename_i hb
  split at h
  · cases h
    exact length_lt_of_blanks hb
  · repeat' split at h
    all_goals cases h

theorem listTurn_item {first : Bool} {s r : List Char} (h : listTurn first s = .ok (.item r)) :
    r.length ≤ s.length := by
  unfold listTurn at h
  split at h <;> try contradiction
  rename_i hb
  have := length_lt_of_blanks hb
  repeat' split at h
  all_goals cases h
  · exact this
  · rename_i hd _
    have := length_lt_of_blanks hd
    simp only [List.length_cons]
    omega

def objectTurn (first : Bool) (s : List Char) : Except Fault Turn :=
  match blanks s with
  | [] => .error ⟨.endInObject, 0⟩
  | c :: r =>
    if c = '\x7d' then .ok (.done r)
    else if first then
      if c = '"' then .ok (.item r) else .error (.inside .keyNotText (c :: r))
    else if c = ',' then
      match blanks r with
      | [] => .error ⟨.endInValue, 0⟩
      | d :: t =>
        if d = '"' then .ok (.item t)
        else if d = '\x7d' then .error (.inside .trailingComma (d :: t))
        else .error (.inside .keyNotText (d :: t))
    else .error (.inside .expectedCommaOrBrace (c :: r))

theorem objectTurn_length {first : Bool} {s r : List Char}
    (h : objectTurn first s = .ok (.done r) ∨ objectTurn first s = .ok (.item r)) :
    r.length < s.length := by
  unfold objectTurn at h
  split at h
  · simp at h
  · rename_i hb
    have := length_lt_of_blanks hb
    repeat' split at h
    all_goals simp only [Except.ok.injEq, Turn.done.injEq, Turn.item.injEq, reduceCtorEq, or_self,
      or_false, false_or] at h
    · exact h ▸ this
    · exact h ▸ this
    · rename_i hd _
      have := length_lt_of_blanks hd
      subst h
      omega

def items {α : Type} (item : Reader α) (first : Bool) (s : List Char) :
    Except Fault (List α × List Char) :=
  match _ht : listTurn first s with
  | .error f => .error f
  | .ok (.done r) => .ok ([], r)
  | .ok (.item t) =>
    match _hi : item.run t with
    | .error f => .error f
    | .ok (a, r) =>
      match items item false r with
      | .error f => .error f
      | .ok (as, u) => .ok (a :: as, u)
termination_by s.length
decreasing_by
  have := listTurn_item _ht
  have := item.shorter _hi
  omega

theorem items_eq {α : Type} (item : Reader α) (first : Bool) (s : List Char) :
    items item first s =
      match listTurn first s with
      | .error f => .error f
      | .ok (.done r) => .ok ([], r)
      | .ok (.item t) =>
        match item.run t with
        | .error f => .error f
        | .ok (a, r) =>
          match items item false r with
          | .error f => .error f
          | .ok (as, u) => .ok (a :: as, u) := by
  rw [items]
  split <;> rename_i ht <;> simp only [ht]
  split <;> rename_i hi <;> simp only [hi]

theorem items_length {α : Type} {item : Reader α} {first : Bool} {s r : List Char} {as : List α}
    (h : items item first s = .ok (as, r)) : r.length < s.length := by
  fun_induction items item first s generalizing as with
  | case1 => simp at h
  | case2 first s t ht =>
    cases h
    exact listTurn_done ht
  | case3 => simp at h
  | case4 => simp at h
  | case5 first s t ht a u hu bs v hv ih =>
    cases h
    have := listTurn_item ht
    have := item.shorter hu
    have := ih hv
    omega

section Label

variable {α : Type} (known : List String) (ofLabel? : String → Option α)

def knownLabel (s : List Char) : Except Fault (α × List Char) :=
  match text s with
  | .error f => .error f
  | .ok (cs, r) =>
    match ofLabel? (String.ofList cs) with
    | some a => .ok (a, r)
    | none => .error (.before (.unknownVariant (String.ofList cs) known) r)

variable {known ofLabel?} in
theorem knownLabel_length {s r : List Char} {a : α} (h : knownLabel known ofLabel? s = .ok (a, r)) :
    r.length < s.length := by
  unfold knownLabel at h
  split at h <;> try contradiction
  rename_i ht
  have := text_length ht
  split at h <;> try contradiction
  cases h
  exact this

def nothing (s : List Char) : Except Fault (List Char) :=
  match blanks s with
  | 'n' :: r => literal null ('n' :: r)
  | t => .error (mismatch .nothing t)

theorem nothing_length {s r : List Char} (h : nothing s = .ok r) : r.length < s.length := by
  unfold nothing at h
  split at h <;> try contradiction
  rename_i hb
  have := length_lt_of_blanks hb
  have := literal_length h
  simp only [null, List.length_cons, List.length_nil] at this
  omega

def labelObject (s : List Char) : Except Fault (α × List Char) :=
  match objectTurn true s with
  | .error f => .error f
  | .ok (.done _) => .error (.inside .expectedValue (blanks s))
  | .ok (.item r) =>
    match knownLabel known ofLabel? r with
    | .error f => .error f
    | .ok (a, t) =>
      match colon t with
      | .error f => .error f
      | .ok u =>
        match nothing u with
        | .error f => .error f
        | .ok v =>
          match blanks v with
          | [] => .error ⟨.endInObject, 0⟩
          | '\x7d' :: w => .ok (a, w)
          | w => .error (.before .expectedValue w)

variable {known ofLabel?} in
theorem labelObject_length {s r : List Char} {a : α}
    (h : labelObject known ofLabel? s = .ok (a, r)) : r.length < s.length := by
  unfold labelObject at h
  split at h <;> try contradiction
  rename_i hb
  have := objectTurn_length (.inr hb)
  split at h <;> try contradiction
  rename_i hk
  split at h <;> try contradiction
  rename_i hc
  split at h <;> try contradiction
  rename_i hn
  have := knownLabel_length hk
  have := colon_length hc
  have := nothing_length hn
  split at h <;> try contradiction
  rename_i hv
  have := length_lt_of_blanks hv
  cases h
  omega

end Label

namespace Reader

variable {α : Type}

def list (item : Reader α) : Reader (List α) where
  run s :=
    match blanks s with
    | '[' :: r => items item true r
    | t => .error (mismatch .sequence t)
  shorter h := by
    split at h <;> try contradiction
    rename_i hb
    have := length_lt_of_blanks hb
    have := items_length h
    omega

/-- One of some labels, as a text or as an object that has the label as its one key and null as its
value. -/
def label (known : List String) (ofLabel? : String → Option α) : Reader α where
  run s :=
    match blanks s with
    | [] => .error ⟨.endInValue, 0⟩
    | '"' :: r => knownLabel known ofLabel? r
    | '\x7b' :: r => labelObject known ofLabel? r
    | t => .error (.inside .expectedValue t)
  shorter h := by
    split at h <;> try contradiction
    · rename_i hb
      have := length_lt_of_blanks hb
      have := knownLabel_length h
      omega
    · rename_i hb
      have := length_lt_of_blanks hb
      have := labelObject_length h
      omega

end Reader

def parse {α : Type} (reader : Reader α) (s : List Char) : Except Fault α :=
  match reader.run s with
  | .error f => .error f
  | .ok (a, r) =>
    match blanks r with
    | [] => .ok a
    | t => .error (.inside .trailingCharacters t)

end FlowAdmission.Json
