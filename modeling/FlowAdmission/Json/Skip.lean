import FlowAdmission.Json.Text
import FlowAdmission.Json.Number

namespace FlowAdmission.Json

def isBlank (c : Char) : Bool :=
  c == ' ' || c == '\t' || c == '\n' || c == '\r'

def blanks (s : List Char) : List Char :=
  s.dropWhile isBlank

theorem blanks_length (s : List Char) : (blanks s).length ≤ s.length :=
  (List.dropWhile_sublist _).length_le

theorem length_lt_of_blanks {s t : List Char} {c : Char} (h : blanks s = c :: t) :
    t.length < s.length := by
  have := blanks_length s
  rw [h, List.length_cons] at this
  omega

def literal : List Char → List Char → Except Fault (List Char)
  | [], s => .ok s
  | _ :: _, [] => .error ⟨.endInValue, 0⟩
  | c :: cs, d :: s => if c = d then literal cs s else .error (.inside .expectedLiteral (d :: s))

theorem literal_length {w s r : List Char} (h : literal w s = .ok r) :
    r.length + w.length = s.length := by
  induction w generalizing s with
  | nil =>
    cases h
    rfl
  | cons c w ih =>
    cases s with
    | nil => cases h
    | cons d s =>
      rw [literal] at h
      split at h <;> try contradiction
      have := ih h
      simp only [List.length_cons]
      omega

def null : List Char := ['n', 'u', 'l', 'l']
def yes : List Char := ['t', 'r', 'u', 'e']
def no : List Char := ['f', 'a', 'l', 's', 'e']

def startsNumber (c : Char) : Bool :=
  c == '-' || c.isDigit

def skipScalar (s : List Char) : Except Fault (List Char) :=
  match s with
  | [] => .error ⟨.endInValue, 0⟩
  | 'n' :: _ => literal null s
  | 't' :: _ => literal yes s
  | 'f' :: _ => literal no s
  | '"' :: r => skipText r
  | c :: _ => if startsNumber c then skipNumber s else .error (.inside .expectedValue s)

theorem skipScalar_length {s r : List Char} (h : skipScalar s = .ok r) : r.length < s.length := by
  unfold skipScalar at h
  split at h <;> try contradiction
  · have := literal_length h
    simp only [null, List.length_cons, List.length_nil] at this ⊢
    omega
  · have := literal_length h
    simp only [yes, List.length_cons, List.length_nil] at this ⊢
    omega
  · have := literal_length h
    simp only [no, List.length_cons, List.length_nil] at this ⊢
    omega
  · have := skipText_length h
    simp only [List.length_cons]
    omega
  · split at h <;> try contradiction
    exact skipNumber_length h

def colon (s : List Char) : Except Fault (List Char) :=
  match blanks s with
  | [] => .error ⟨.endInObject, 0⟩
  | ':' :: r => .ok r
  | t => .error (.inside .expectedColon t)

theorem colon_length {s r : List Char} (h : colon s = .ok r) : r.length < s.length := by
  unfold colon at h
  split at h <;> try contradiction
  cases h
  exact length_lt_of_blanks ‹_›

inductive Bracket
  | list
  | object
deriving DecidableEq

namespace Bracket

def closing : Bracket → Char
  | list => ']'
  | object => '\x7d'

def atEnd : Bracket → Reason
  | list => .endInList
  | object => .endInObject

def expectedComma : Bracket → Reason
  | list => .expectedCommaOrBracket
  | object => .expectedCommaOrBrace

end Bracket

def skipKey (b : Bracket) (s : List Char) : Except Fault (List Char) :=
  match b with
  | .list => .ok s
  | .object =>
    match blanks s with
    | [] => .error ⟨.endInObject, 0⟩
    | '"' :: r =>
      match skipText r with
      | .error f => .error f
      | .ok t => colon t
    | t => .error (.inside .keyNotText t)

theorem skipKey_length {b : Bracket} {s r : List Char} (h : skipKey b s = .ok r) :
    r.length ≤ s.length := by
  unfold skipKey at h
  split at h
  · cases h
    exact Nat.le_refl _
  · split at h <;> try contradiction
    rename_i hb
    have := length_lt_of_blanks hb
    split at h <;> try contradiction
    rename_i ht
    have := skipText_length ht
    have := colon_length h
    omega

inductive Stage
  | value
  | opened
  | closed
deriving DecidableEq

def Stage.weight : Stage → Nat
  | value => 0
  | opened => 1
  | closed => 0

/-- Passes over a value of any depth; `around` holds the open brackets, innermost first. -/
def skip (stage : Stage) (around : List Bracket) (s : List Char) : Except Fault (List Char) :=
  match stage, around with
  | .value, around =>
    match _h : blanks s with
    | '[' :: r => skip .opened (.list :: around) r
    | '\x7b' :: r => skip .opened (.object :: around) r
    | t =>
      match _hr : skipScalar t with
      | .error f => .error f
      | .ok r => skip .closed around r
  | .opened, [] => .ok s
  | .opened, b :: around =>
    match _h : blanks s with
    | [] => .error ⟨b.atEnd, 0⟩
    | c :: r =>
      if c = b.closing then skip .closed around r
      else
        match _hr : skipKey b s with
        | .error f => .error f
        | .ok t => skip .value (b :: around) t
  | .closed, [] => .ok s
  | .closed, b :: around =>
    match _h : blanks s with
    | [] => .error ⟨b.atEnd, 0⟩
    | c :: r =>
      if c = b.closing then skip .closed around r
      else if c = ',' then
        match _hr : skipKey b r with
        | .error f => .error f
        | .ok t => skip .value (b :: around) t
      else .error (.inside b.expectedComma (c :: r))
termination_by 2 * s.length + stage.weight
decreasing_by
  all_goals simp only [Stage.weight]
  · have := length_lt_of_blanks _h
    omega
  · have := length_lt_of_blanks _h
    omega
  · have := skipScalar_length _hr
    have := blanks_length s
    rw [_h] at this
    omega
  · have := length_lt_of_blanks _h
    omega
  · have := skipKey_length _hr
    omega
  · have := length_lt_of_blanks _h
    omega
  · have := skipKey_length _hr
    have := length_lt_of_blanks _h
    omega

theorem skip_value (around : List Bracket) (s : List Char) :
    skip .value around s =
      match blanks s with
      | '[' :: r => skip .opened (.list :: around) r
      | '\x7b' :: r => skip .opened (.object :: around) r
      | t =>
        match skipScalar t with
        | .error f => .error f
        | .ok r => skip .closed around r := by
  rw [skip]
  split
  · rename_i h
    simp only [h]
  · rename_i h
    simp only [h]
  · split <;> rename_i h <;> simp only [h]

theorem skip_opened (b : Bracket) (around : List Bracket) (s : List Char) :
    skip .opened (b :: around) s =
      match blanks s with
      | [] => .error ⟨b.atEnd, 0⟩
      | c :: r =>
        if c = b.closing then skip .closed around r
        else
          match skipKey b s with
          | .error f => .error f
          | .ok t => skip .value (b :: around) t := by
  rw [skip]
  split <;> rename_i h <;> simp only [h]
  split <;> try rfl
  split <;> rename_i hk <;> simp only [hk]

theorem skip_closed_nil (s : List Char) : skip .closed [] s = .ok s := by
  rw [skip]

theorem skip_closed (b : Bracket) (around : List Bracket) (s : List Char) :
    skip .closed (b :: around) s =
      match blanks s with
      | [] => .error ⟨b.atEnd, 0⟩
      | c :: r =>
        if c = b.closing then skip .closed around r
        else if c = ',' then
          match skipKey b r with
          | .error f => .error f
          | .ok t => skip .value (b :: around) t
        else .error (.inside b.expectedComma (c :: r)) := by
  rw [skip]
  split <;> rename_i h <;> simp only [h]
  split <;> try rfl
  split <;> try rfl
  split <;> rename_i hk <;> simp only [hk]

theorem skip_length {stage : Stage} {around : List Bracket} {s r : List Char}
    (h : skip stage around s = .ok r) :
    r.length ≤ s.length ∧ (stage = .value → r.length < s.length) := by
  fun_induction skip stage around s with
  | case1 s around t ht ih =>
    have := (ih h).1
    have := length_lt_of_blanks ht
    exact ⟨by omega, fun _ => by omega⟩
  | case2 s around t ht ih =>
    have := (ih h).1
    have := length_lt_of_blanks ht
    exact ⟨by omega, fun _ => by omega⟩
  | case3 => simp at h
  | case4 s around _ _ t ht ih =>
    have hb := blanks_length s
    have hs := skipScalar_length ht
    have hr := (ih h).1
    omega
  | case5 =>
    cases h
    exact ⟨Nat.le_refl _, by simp⟩
  | case6 => simp at h
  | case7 s b around t ht ih =>
    have := (ih h).1
    have := length_lt_of_blanks ht
    exact ⟨by omega, by simp⟩
  | case8 => simp at h
  | case9 s b around c u hu hc t ht ih =>
    have := (ih h).1
    have := skipKey_length ht
    exact ⟨by omega, by simp⟩
  | case10 =>
    cases h
    exact ⟨Nat.le_refl _, by simp⟩
  | case11 => simp at h
  | case12 s b around t ht ih =>
    have := (ih h).1
    have := length_lt_of_blanks ht
    exact ⟨by omega, by simp⟩
  | case13 => simp at h
  | case14 s b around u t ht hu hc ih =>
    have := (ih h).1
    have := skipKey_length ht
    have := length_lt_of_blanks hu
    exact ⟨by omega, by simp⟩
  | case15 => simp at h

def skipValue (s : List Char) : Except Fault (List Char) :=
  skip .value [] s

theorem skipValue_length {s r : List Char} (h : skipValue s = .ok r) : r.length < s.length :=
  (skip_length h).2 rfl

end FlowAdmission.Json
