import FlowAdmission.Json.Skip

namespace FlowAdmission.Json

/-- What a text describes. A literal with an unpaired surrogate is well formed but stands for no
string. -/
inductive Value
  | null
  | boolean (b : Bool)
  | number (n : Numeral)
  | text (t : Option String)
  | list (vs : List Value)
  | object (ms : List (Option String × Value))

abbrev Member := Option String × Value

def Blank (w : List Char) : Prop :=
  ∀ c ∈ w, c ∈ [' ', '\t', '\n', '\r']

def IsHex (d : Nat) (c : Char) : Prop :=
  d < 16 ∧ (c = d.digitChar ∨ c = d.digitChar.toUpper)

inductive HexText : Nat → List Char → Prop
  | mk {a b c d : Nat} {w x y z : Char} (ha : IsHex a w) (hb : IsHex b x) (hc : IsHex c y) (hd : IsHex d z) :
      HexText (((a * 16 + b) * 16 + c) * 16 + d) [w, x, y, z]

def letters : List (Char × Char) :=
  [('"', '"'), ('\\', '\\'), ('/', '/'), ('b', '\x08'), ('f', '\x0c'), ('n', '\n'), ('r', '\r'), ('t', '\t')]

inductive EscapeText : Char → List Char → Prop
  | letter {l c : Char} (h : (l, c) ∈ letters) : EscapeText c [l]
  | unit {c : Char} {s : List Char} (h : HexText c.toNat s) : EscapeText c ('u' :: s)
  | pair {c : Char} {s t : List Char} (hc : 0x10000 ≤ c.toNat)
      (hs : HexText (0xD800 + (c.toNat - 0x10000) / 1024) s)
      (ht : HexText (0xDC00 + (c.toNat - 0x10000) % 1024) t) :
      EscapeText c ('u' :: (s ++ '\\' :: 'u' :: t))

inductive CharText : Char → List Char → Prop
  | plain {c : Char} (hq : c ≠ '"') (hb : c ≠ '\\') (hc : 0x20 ≤ c.toNat) : CharText c [c]
  | escape {c : Char} {s : List Char} (h : EscapeText c s) : CharText c ('\\' :: s)

inductive Spelled : List Char → List Char → Prop
  | nil : Spelled [] []
  | cons {c : Char} {cs s t : List Char} (hc : CharText c s) (hcs : Spelled cs t) :
      Spelled (c :: cs) (s ++ t)

inductive Quotable : List Char → Prop
  | nil : Quotable []
  | plain {c : Char} {s : List Char} (hq : c ≠ '"') (hb : c ≠ '\\') (hc : 0x20 ≤ c.toNat)
      (hs : Quotable s) : Quotable (c :: s)
  | letter {l c : Char} {s : List Char} (h : (l, c) ∈ letters) (hs : Quotable s) :
      Quotable ('\\' :: l :: s)
  | unit {n : Nat} {s t : List Char} (h : HexText n s) (ht : Quotable t) :
      Quotable ('\\' :: 'u' :: (s ++ t))

def LiteralText (t : Option String) (s : List Char) : Prop :=
  match t with
  | some t => Spelled t.toList s
  | none => Quotable s ∧ ∀ cs, ¬ Spelled cs s

def IsDigits (ds : List Char) : Prop :=
  ds ≠ [] ∧ ∀ d ∈ ds, d.isDigit = true

def WholeText (ds : List Char) : Prop :=
  IsDigits ds ∧ (ds.head? = some '0' → ds = ['0'])

inductive FractionText : List Char → List Char → Prop
  | none : FractionText [] []
  | some {ds : List Char} (h : IsDigits ds) : FractionText ds ('.' :: ds)

inductive ExponentText : Option (Bool × List Char) → List Char → Prop
  | none : ExponentText none []
  | bare {c : Char} {ds : List Char} (hc : c = 'e' ∨ c = 'E') (h : IsDigits ds) :
      ExponentText (some (false, ds)) (c :: ds)
  | plus {c : Char} {ds : List Char} (hc : c = 'e' ∨ c = 'E') (h : IsDigits ds) :
      ExponentText (some (false, ds)) (c :: '+' :: ds)
  | minus {c : Char} {ds : List Char} (hc : c = 'e' ∨ c = 'E') (h : IsDigits ds) :
      ExponentText (some (true, ds)) (c :: '-' :: ds)

inductive NumeralText : Numeral → List Char → Prop
  | mk {negative : Bool} {w f s t : List Char} {e : Option (Bool × List Char)} (hw : WholeText w)
      (hf : FractionText f s) (he : ExponentText e t) :
      NumeralText ⟨negative, w, f, e⟩ ((if negative then ['-'] else []) ++ (w ++ (s ++ t)))

inductive Phrase
  | value (v : Value)
  | item (v : Value)
  | items (vs : List Value)
  | member (m : Member)
  | members (ms : List Member)

/-- The texts of a value and of what stands between brackets. Blanks are free around every item, key
and bracket. -/
inductive Renders : Phrase → List Char → Prop
  | null : Renders (.value .null) Json.null
  | boolean (b : Bool) : Renders (.value (.boolean b)) (if b then yes else no)
  | number {n : Numeral} {s : List Char} (h : NumeralText n s) : Renders (.value (.number n)) s
  | text {t : Option String} {s : List Char} (h : LiteralText t s) :
      Renders (.value (.text t)) ('"' :: (s ++ ['"']))
  | emptyList {w : List Char} (hw : Blank w) : Renders (.value (.list [])) ('[' :: (w ++ [']']))
  | list {vs : List Value} {s : List Char} (h : Renders (.items vs) s) :
      Renders (.value (.list vs)) ('[' :: (s ++ [']']))
  | emptyObject {w : List Char} (hw : Blank w) :
      Renders (.value (.object [])) ('\x7b' :: (w ++ ['\x7d']))
  | object {ms : List Member} {s : List Char} (h : Renders (.members ms) s) :
      Renders (.value (.object ms)) ('\x7b' :: (s ++ ['\x7d']))
  | item {v : Value} {w s x : List Char} (hw : Blank w) (h : Renders (.value v) s) (hx : Blank x) :
      Renders (.item v) (w ++ (s ++ x))
  | lastItem {v : Value} {s : List Char} (h : Renders (.item v) s) : Renders (.items [v]) s
  | items {v : Value} {vs : List Value} {s t : List Char} (h : Renders (.item v) s)
      (ht : Renders (.items vs) t) : Renders (.items (v :: vs)) (s ++ ',' :: t)
  | member {key : Option String} {v : Value} {w k x s : List Char} (hw : Blank w) (hk : LiteralText key k)
      (hx : Blank x) (h : Renders (.item v) s) :
      Renders (.member (key, v)) (w ++ '"' :: (k ++ '"' :: (x ++ ':' :: s)))
  | lastMember {m : Member} {s : List Char} (h : Renders (.member m) s) : Renders (.members [m]) s
  | members {m : Member} {ms : List Member} {s t : List Char} (h : Renders (.member m) s)
      (ht : Renders (.members ms) t) : Renders (.members (m :: ms)) (s ++ ',' :: t)

def Ends (r : List Char) : Prop :=
  ∀ c, r.head? = some c → c ∈ [' ', '\t', '\n', '\r', ',', ']', '\x7d']

def Value.Opens (c : Char) : Value → Prop
  | .null => c = 'n'
  | .boolean b => c = if b then 't' else 'f'
  | .number _ => startsNumber c = true
  | .text _ => c = '"'
  | .list _ => c = '['
  | .object _ => c = '\x7b'

variable {c : Char} {v : Value} {w s r : List Char}

theorem isBlank_iff : isBlank c = true ↔ c ∈ [' ', '\t', '\n', '\r'] := by
  simp [isBlank, or_assoc]

theorem blanks_append (hw : Blank w) (s : List Char) : blanks (w ++ s) = blanks s :=
  List.dropWhile_append_of_pos (fun c hc => isBlank_iff.mpr (hw c hc))

theorem blanks_cons (hc : ¬ isBlank c = true) (s : List Char) : blanks (c :: s) = c :: s :=
  List.dropWhile_cons_of_neg hc

theorem blank_nil : Blank [] := by
  intro c hc
  cases hc

theorem ends_nil : Ends [] := by
  intro c hc
  cases hc

theorem Blank.ends (hw : Blank w) (hr : Ends r) : Ends (w ++ r) := by
  cases w with
  | nil => exact hr
  | cons d w =>
    intro c hc
    cases hc
    exact List.mem_append_left [',', ']', '\x7d'] (hw d List.mem_cons_self)

theorem ends_cons (hc : c ∈ [',', ']', '\x7d']) (r : List Char) : Ends (c :: r) := by
  intro d hd
  cases hd
  exact List.mem_append_right [' ', '\t', '\n', '\r'] hc

theorem Ends.ne (h : Ends r) (hc : c ∉ [' ', '\t', '\n', '\r', ',', ']', '\x7d']) (t : List Char) :
    r ≠ c :: t := by
  rintro rfl
  exact hc (h c rfl)

theorem Value.Opens.not_blank (h : v.Opens c) : ¬ isBlank c = true ∧ c ≠ ']' := by
  cases v with
  | null => cases h; decide
  | boolean b => cases b <;> cases h <;> decide
  | number n =>
    constructor
    · intro hc
      have hall : [' ', '\t', '\n', '\r'].all (!startsNumber ·) = true := by decide
      have hnone := List.all_eq_true.mp hall c (isBlank_iff.mp hc)
      rw [show startsNumber c = true from h] at hnone
      exact Bool.false_ne_true hnone
    · rintro rfl
      cases h
  | text t => cases h; decide
  | list vs => cases h; decide
  | object ms => cases h; decide

theorem opens_numeral {n : Numeral} (h : NumeralText n s) : ∃ c t, s = c :: t ∧ startsNumber c = true := by
  obtain @⟨negative, w, f, s, t, e, hw, _, _⟩ := h
  cases negative with
  | true => exact ⟨'-', _, rfl, rfl⟩
  | false =>
    obtain ⟨⟨hne, hds⟩, _⟩ := hw
    cases w with
    | nil => exact (hne rfl).elim
    | cons d w => exact ⟨d, _, rfl, by simp [startsNumber, hds d List.mem_cons_self]⟩

theorem Renders.opens (h : Renders (.value v) s) : ∃ c t, s = c :: t ∧ v.Opens c := by
  cases h with
  | null => exact ⟨'n', _, rfl, rfl⟩
  | boolean b => cases b <;> exact ⟨_, _, rfl, rfl⟩
  | number h => exact opens_numeral h
  | text h => exact ⟨'"', _, rfl, rfl⟩
  | emptyList hw => exact ⟨'[', _, rfl, rfl⟩
  | list h => exact ⟨'[', _, rfl, rfl⟩
  | emptyObject hw => exact ⟨'\x7b', _, rfl, rfl⟩
  | object h => exact ⟨'\x7b', _, rfl, rfl⟩

theorem blanks_value (hw : Blank w) (h : Renders (.value v) s) (r : List Char) :
    ∃ c t, v.Opens c ∧ s = c :: t ∧ blanks (w ++ (s ++ r)) = c :: (t ++ r) := by
  obtain ⟨c, t, rfl, hc⟩ := h.opens
  exact ⟨c, t, hc, rfl, (blanks_append hw _).trans (blanks_cons hc.not_blank.1 _)⟩

theorem blanks_item (h : Renders (.item v) s) (r : List Char) :
    ∃ c t, v.Opens c ∧ blanks (s ++ r) = c :: t := by
  cases h with
  | @item _ w s x hw h hx =>
    obtain ⟨c, t, hc, _, hb⟩ := blanks_value hw h (x ++ r)
    exact ⟨c, _, hc, by simpa using hb⟩

theorem blanks_items {vs : List Value} (h : Renders (.items vs) s) (r : List Char) :
    ∃ c t, c ≠ ']' ∧ blanks (s ++ r) = c :: t := by
  have hitem {v : Value} {s : List Char} (h : Renders (.item v) s) (r : List Char) :
      ∃ c t, c ≠ ']' ∧ blanks (s ++ r) = c :: t := by
    obtain ⟨c, t, hc, hb⟩ := blanks_item h r
    exact ⟨c, t, hc.not_blank.2, hb⟩
  cases h with
  | lastItem h => exact hitem h r
  | items h ht =>
    rw [List.append_assoc]
    exact hitem h _

theorem blanks_members {ms : List Member} (h : Renders (.members ms) s) (r : List Char) :
    ∃ t, blanks (s ++ r) = '"' :: t := by
  have hmember {m : Member} {s : List Char} (h : Renders (.member m) s) (r : List Char) :
      ∃ t, blanks (s ++ r) = '"' :: t := by
    cases h with
    | member hw hk hx h =>
      rw [List.append_assoc, blanks_append hw]
      exact ⟨_, rfl⟩
  cases h with
  | lastMember h => exact hmember h r
  | members h ht =>
    rw [List.append_assoc]
    exact hmember h _

end FlowAdmission.Json
