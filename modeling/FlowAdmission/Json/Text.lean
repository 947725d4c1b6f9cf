import FlowAdmission.Json.Fault

namespace FlowAdmission.Json

def hexValue? (c : Char) : Option Nat :=
  if '0' ≤ c ∧ c ≤ '9' then some (c.toNat - '0'.toNat)
  else if 'a' ≤ c ∧ c ≤ 'f' then some (c.toNat - 'a'.toNat + 10)
  else if 'A' ≤ c ∧ c ≤ 'F' then some (c.toNat - 'A'.toNat + 10)
  else none

/-- Four bytes are taken before they are looked at. -/
def badUnit (s : List Char) : Fault :=
  if byteSize s < 4 then ⟨.endInText, 0⟩ else ⟨.invalidEscape, byteSize s - 4⟩

def hexUnit (s : List Char) : Except Fault (Nat × List Char) :=
  match s with
  | a :: b :: c :: d :: r =>
    match hexValue? a, hexValue? b, hexValue? c, hexValue? d with
    | some a, some b, some c, some d => .ok (((a * 16 + b) * 16 + c) * 16 + d, r)
    | _, _, _, _ => .error (badUnit s)
  | _ => .error (badUnit s)

theorem hexUnit_length {s r : List Char} {n : Nat} (h : hexUnit s = .ok (n, r)) :
    r.length + 4 = s.length := by
  unfold hexUnit at h
  split at h <;> try contradiction
  split at h <;> try contradiction
  cases h
  rfl

def isHighUnit (n : Nat) : Bool :=
  0xD800 ≤ n && n ≤ 0xDBFF

def isLowUnit (n : Nat) : Bool :=
  0xDC00 ≤ n && n ≤ 0xDFFF

def joinUnits (high low : Nat) : Char :=
  Char.ofNat (0x10000 + (high - 0xD800) * 1024 + (low - 0xDC00))

def lowUnit (s : List Char) : Except Fault (Nat × List Char) :=
  match s with
  | [] => .error ⟨.endInText, 0⟩
  | '\\' :: [] => .error ⟨.endInText, 0⟩
  | '\\' :: 'u' :: r =>
    match hexUnit r with
    | .error f => .error f
    | .ok (n, r) => if isLowUnit n then .ok (n, r) else .error (.before .loneSurrogate r)
  | '\\' :: r => .error (.inside .unpairedUnit r)
  | r => .error (.inside .unpairedUnit r)

theorem lowUnit_length {s r : List Char} {n : Nat} (h : lowUnit s = .ok (n, r)) :
    r.length < s.length := by
  unfold lowUnit at h
  split at h <;> try contradiction
  split at h <;> try contradiction
  rename_i hu
  have := hexUnit_length hu
  split at h <;> try contradiction
  cases h
  simp only [List.length_cons]
  omega

def unicode (s : List Char) : Except Fault (Char × List Char) :=
  match hexUnit s with
  | .error f => .error f
  | .ok (n, r) =>
    if isLowUnit n then .error (.before .loneSurrogate r)
    else if isHighUnit n then
      match lowUnit r with
      | .error f => .error f
      | .ok (m, r) => .ok (joinUnits n m, r)
    else .ok (Char.ofNat n, r)

theorem unicode_length {s r : List Char} {c : Char} (h : unicode s = .ok (c, r)) :
    r.length < s.length := by
  unfold unicode at h
  split at h <;> try contradiction
  rename_i hu
  have := hexUnit_length hu
  split at h <;> try contradiction
  split at h
  · split at h <;> try contradiction
    rename_i hl
    have := lowUnit_length hl
    obtain ⟨-, rfl⟩ := Prod.mk.inj (Except.ok.inj h)
    omega
  · obtain ⟨-, rfl⟩ := Prod.mk.inj (Except.ok.inj h)
    omega

def shortEscape? : Char → Option Char
  | '"' => some '"'
  | '\\' => some '\\'
  | '/' => some '/'
  | 'b' => some '\x08'
  | 'f' => some '\x0c'
  | 'n' => some '\n'
  | 'r' => some '\r'
  | 't' => some '\t'
  | _ => none

def escaped (s : List Char) : Except Fault (Char × List Char) :=
  match s with
  | [] => .error ⟨.endInText, 0⟩
  | 'u' :: r => unicode r
  | c :: r =>
    match shortEscape? c with
    | some d => .ok (d, r)
    | none => .error (.inside .invalidEscape s)

theorem escaped_length {s r : List Char} {c : Char} (h : escaped s = .ok (c, r)) :
    r.length < s.length := by
  unfold escaped at h
  split at h <;> try contradiction
  · have := unicode_length h
    simp only [List.length_cons]
    omega
  · split at h <;> try contradiction
    cases h
    simp

def isControl (c : Char) : Bool :=
  c.toNat < 0x20

def text (s : List Char) : Except Fault (List Char × List Char) :=
  match s with
  | [] => .error ⟨.endInText, 0⟩
  | '"' :: r => .ok ([], r)
  | '\\' :: r =>
    match h : escaped r with
    | .error f => .error f
    | .ok (c, t) =>
      have := escaped_length h
      match text t with
      | .error f => .error f
      | .ok (cs, u) => .ok (c :: cs, u)
  | c :: r =>
    if isControl c then .error (.inside .controlCharacter s)
    else
      match text r with
      | .error f => .error f
      | .ok (cs, u) => .ok (c :: cs, u)
termination_by s.length
decreasing_by
  all_goals
    simp only [List.length_cons]
    omega

theorem text_quote (r : List Char) : text ('"' :: r) = .ok ([], r) := by
  rw [text]

theorem text_escape (r : List Char) :
    text ('\\' :: r) =
      match escaped r with
      | .error f => .error f
      | .ok (c, t) =>
        match text t with
        | .error f => .error f
        | .ok (cs, u) => .ok (c :: cs, u) := by
  rw [text]
  split <;> rename_i h <;> simp only [h]

theorem text_plain {c : Char} (hq : c ≠ '"') (hb : c ≠ '\\') (r : List Char) :
    text (c :: r) =
      if isControl c then .error (.inside .controlCharacter (c :: r))
      else
        match text r with
        | .error f => .error f
        | .ok (cs, u) => .ok (c :: cs, u) := by
  rw [text]
  · exact hq
  · exact hb

theorem text_length {s r cs : List Char} (h : text s = .ok (cs, r)) : r.length < s.length := by
  induction hn : s.length using Nat.strongRecOn generalizing s r cs with
  | _ n ih =>
    subst hn
    unfold text at h
    split at h <;> try contradiction
    · cases h
      simp
    · split at h <;> try contradiction
      rename_i he
      have hl := escaped_length he
      split at h <;> try contradiction
      rename_i ht
      have := ih _ (by simp only [List.length_cons]; omega) ht rfl
      cases h
      simp only [List.length_cons]
      omega
    · split at h <;> try contradiction
      split at h <;> try contradiction
      rename_i ht
      have := ih _ (by simp) ht rfl
      cases h
      simp only [List.length_cons]
      omega

/-- Passes over an escape without asking whether its unit is paired. -/
def skipEscaped (s : List Char) : Except Fault (List Char) :=
  match s with
  | [] => .error ⟨.endInText, 0⟩
  | 'u' :: r =>
    match hexUnit r with
    | .error f => .error f
    | .ok (_, r) => .ok r
  | c :: r =>
    match shortEscape? c with
    | some _ => .ok r
    | none => .error (.inside .invalidEscape s)

theorem skipEscaped_length {s r : List Char} (h : skipEscaped s = .ok r) :
    r.length < s.length := by
  unfold skipEscaped at h
  split at h <;> try contradiction
  · split at h <;> try contradiction
    rename_i hu
    have := hexUnit_length hu
    cases h
    simp only [List.length_cons]
    omega
  · split at h <;> try contradiction
    cases h
    simp

def skipText (s : List Char) : Except Fault (List Char) :=
  match s with
  | [] => .error ⟨.endInText, 0⟩
  | '"' :: r => .ok r
  | '\\' :: r =>
    match h : skipEscaped r with
    | .error f => .error f
    | .ok t =>
      have := skipEscaped_length h
      skipText t
  | c :: r => if isControl c then .error (.before .controlCharacter s) else skipText r
termination_by s.length
decreasing_by
  all_goals
    simp only [List.length_cons]
    omega

theorem skipText_quote (r : List Char) : skipText ('"' :: r) = .ok r := by
  rw [skipText]

theorem skipText_escape (r : List Char) :
    skipText ('\\' :: r) =
      match skipEscaped r with
      | .error f => .error f
      | .ok t => skipText t := by
  rw [skipText]
  split <;> rename_i h <;> simp only [h]

theorem skipText_plain {c : Char} (hq : c ≠ '"') (hb : c ≠ '\\') (r : List Char) :
    skipText (c :: r) =
      if isControl c then .error (.before .controlCharacter (c :: r)) else skipText r := by
  rw [skipText]
  · exact hq
  · exact hb

theorem skipText_length {s r : List Char} (h : skipText s = .ok r) : r.length < s.length := by
  induction hn : s.length using Nat.strongRecOn generalizing s r with
  | _ n ih =>
    subst hn
    unfold skipText at h
    split at h <;> try contradiction
    · cases h
      simp
    · split at h <;> try contradiction
      rename_i he
      have hl := skipEscaped_length he
      have := ih _ (by simp only [List.length_cons]; omega) h rfl
      simp only [List.length_cons]
      omega
    · split at h <;> try contradiction
      have := ih _ (by simp) h rfl
      simp only [List.length_cons]
      omega

end FlowAdmission.Json
