import FlowAdmission.Json.Reader
import FlowAdmission.Proofs.Skipping

namespace FlowAdmission.Json

namespace Value

variable {α : Type}

def text? : Value → Option String
  | text t => t
  | _ => none

def boolean? : Value → Option Bool
  | boolean b => some b
  | _ => none

def integer? : Value → Option Int
  | number n => n.integer?
  | _ => none

def label? (ofLabel? : String → Option α) : Value → Option α
  | text t => t.bind ofLabel?
  | object [(key, null)] => key.bind ofLabel?
  | _ => none

def list? (item? : Value → Option α) : Value → Option (List α)
  | list vs => vs.mapM item?
  | _ => none

theorem eq_text {v : Value} (h : v.Opens '"') : ∃ t, v = text t := by
  cases v with
  | text t => exact ⟨t, rfl⟩
  | boolean b => cases b <;> cases h
  | _ => cases h

theorem eq_list {v : Value} (h : v.Opens '[') : ∃ vs, v = list vs := by
  cases v with
  | list vs => exact ⟨vs, rfl⟩
  | boolean b => cases b <;> cases h
  | _ => cases h

theorem eq_null {v : Value} (h : v.Opens 'n') : v = null := by
  cases v with
  | null => rfl
  | boolean b => cases b <;> cases h
  | _ => cases h

theorem eq_boolean {v : Value} {b : Bool} (h : v.Opens (if b then 't' else 'f')) : v = boolean b := by
  cases v with
  | boolean a => cases a <;> cases b <;> first | rfl | cases h
  | _ => cases b <;> cases h

theorem eq_number {v : Value} {c : Char} (h : v.Opens c) (hc : startsNumber c = true) : ∃ n, v = number n := by
  cases v with
  | number n => exact ⟨n, rfl⟩
  | boolean b => cases b <;> cases h <;> cases hc
  | _ =>
    cases h
    cases hc

end Value

variable {α β : Type} {v : Value} {w s r : List Char}

/-- From every text of a value the reader takes what `meaning` finds in the value, and it fails where
that is nothing. -/
def Reader.Reads (reader : Reader α) (meaning : Value → Option α) : Prop :=
  ∀ {v : Value} {s : List Char}, Renders (.value v) s → ∀ {w r : List Char}, Blank w → Ends r →
    (reader.run (w ++ (s ++ r))).toOption = (meaning v).map (·, r)

theorem toOption_cases {x : Except Fault (α × List Char)} {a? : Option α}
    (h : x.toOption = a?.map (·, r)) :
    (∃ a, a? = some a ∧ x = .ok (a, r)) ∨ a? = none ∧ ∃ f, x = .error f := by
  cases a? with
  | none =>
    cases x with
    | error f => exact .inr ⟨rfl, f, rfl⟩
    | ok p => cases h
  | some a =>
    cases x with
    | error f => cases h
    | ok p =>
      cases h
      exact .inl ⟨a, rfl, rfl⟩

namespace Reader

theorem Reads.map {reader : Reader α} {meaning : Value → Option α} (h : reader.Reads meaning) (f : α → β) :
    (reader.map f).Reads (fun v => (meaning v).map f) := by
  intro v s hv w r hw hr
  rcases toOption_cases (h hv hw hr) with ⟨a, ha, hrun⟩ | ⟨ha, _, hrun⟩
  · simp only [Reader.map, hrun, ha]
    rfl
  · simp only [Reader.map, hrun, ha]
    rfl

theorem reads_text : text.Reads Value.text? := by
  intro v s h w r hw hr
  obtain ⟨c, t, hc, rfl, hb⟩ := blanks_value hw h r
  by_cases hq : c = '"'
  · subst hq
    obtain ⟨t, rfl⟩ := Value.eq_text hc
    cases h with
    | text h =>
      simp only [text, hb]
      rw [List.append_assoc, List.singleton_append]
      rcases toOption_cases (text_literal h r) with ⟨cs, hcs, htext⟩ | ⟨hcs, f, htext⟩
      · obtain ⟨t, rfl, rfl⟩ := Option.map_eq_some_iff.mp hcs
        rw [htext]
        simp [Value.text?, Except.toOption]
      · rw [htext, Option.map_eq_none_iff.mp hcs]
        rfl
  · have hnone : v.text? = none := by
      cases v with
      | text t => exact (hq hc).elim
      | _ => rfl
    simp only [text, hb, hnone]
    split
    · rename_i heq
      exact (hq (List.cons.inj heq).1).elim
    · rfl

theorem reads_boolean : boolean.Reads Value.boolean? := by
  intro v s h w r hw hr
  obtain ⟨c, t, hc, hs, hb⟩ := blanks_value hw h r
  simp only [boolean, hb]
  by_cases hword : ∃ b : Bool, c = if b then 't' else 'f'
  · obtain ⟨b, rfl⟩ := hword
    obtain rfl := Value.eq_boolean hc
    cases h with
    | boolean b =>
      cases b with
      | true =>
        cases hs
        rfl
      | false =>
        cases hs
        rfl
  · have hnone : v.boolean? = none := by
      cases v with
      | boolean b => exact (hword ⟨b, hc⟩).elim
      | _ => rfl
    rw [hnone]
    split
    · rename_i heq
      exact (hword ⟨true, (List.cons.inj heq).1⟩).elim
    · rename_i heq
      exact (hword ⟨false, (List.cons.inj heq).1⟩).elim
    · rfl

theorem reads_integer (expected : Expected) (narrow : Int → Option α) :
    (integer expected narrow).Reads (fun v => v.integer?.bind narrow) := by
  intro v s h w r hw hr
  obtain ⟨c, t, hc, hs, hb⟩ := blanks_value hw h r
  by_cases hstart : startsNumber c = true
  · obtain ⟨n, rfl⟩ := Value.eq_number hc hstart
    cases h with
    | number h =>
      have hnumber := number_append h hr
      rw [hs, List.cons_append] at hnumber
      simp only [integer, hb, if_pos hstart, Value.integer?]
      rcases hnumber with ⟨k, hk, hread⟩ | ⟨hnone, ⟨f, hread⟩ | ⟨negative, size, hread⟩⟩
      · simp only [hread, hk, Option.bind_some]
        cases narrow k <;> rfl
      · simp only [hread, hnone]
        rfl
      · simp only [hread, hnone]
        rfl
  · have hnone : v.integer? = none := by
      cases v with
      | number n => exact (hstart hc).elim
      | _ => rfl
    simp only [integer, hb, hnone, if_neg hstart]
    rfl

theorem listTurn_close {first : Bool} (hw : Blank w) (r : List Char) :
    listTurn first (w ++ ']' :: r) = .ok (.done r) := by
  rw [listTurn, blanks_append hw, blanks_cons (by decide)]
  rfl

def lead (first : Bool) (x : List Char) : List Char :=
  if first then [] else x ++ [',']

theorem lead_first (x s : List Char) : lead true x ++ s = s := rfl

theorem lead_later (x s : List Char) : lead false x ++ s = x ++ ',' :: s := by
  rw [lead, if_neg Bool.false_ne_true, List.append_assoc, List.singleton_append]

theorem listTurn_value {first : Bool} {x : List Char} (hx : Blank x) (hw : Blank w)
    (h : Renders (.value v) s) (r : List Char) :
    listTurn first (lead first x ++ (w ++ (s ++ r))) = .ok (.item (s ++ r)) := by
  obtain ⟨c, t, hc, rfl, hb⟩ := blanks_value hw h r
  have hclose := hc.not_blank.2
  cases first with
  | true =>
    rw [lead_first, listTurn, hb]
    simp [hclose]
  | false =>
    rw [lead_later, listTurn, blanks_append hx, blanks_cons (by decide)]
    simp only [hb]
    simp [hclose]

theorem items_close {item : Reader α} {first : Bool} (hw : Blank w) (r : List Char) :
    items item first (w ++ ']' :: r) = .ok ([], r) := by
  rw [items_eq, listTurn_close hw]

theorem items_item {item : Reader α} {item? : Value → Option α} (h : item.Reads item?) (first : Bool)
    {x t : List Char} (hx : Blank x) (hs : Renders (.item v) s) (ht : Ends t) :
    (∃ a y, item? v = some a ∧ Blank y ∧ items item first (lead first x ++ (s ++ t)) =
      match items item false (y ++ t) with
      | .error f => .error f
      | .ok (as, u) => .ok (a :: as, u)) ∨
    item? v = none ∧ ∃ f, items item first (lead first x ++ (s ++ t)) = .error f := by
  cases hs with
  | @item _ w s y hw hv hy =>
    have hrun := h hv blank_nil (hy.ends ht)
    rw [List.append_assoc, List.append_assoc, items_eq, listTurn_value hx hw hv]
    rcases toOption_cases hrun with ⟨a, ha, hread⟩ | ⟨ha, f, hread⟩
    · rw [List.nil_append] at hread
      simp only [hread]
      exact .inl ⟨a, y, ha, hy, rfl⟩
    · rw [List.nil_append] at hread
      simp only [hread]
      exact .inr ⟨ha, f, rfl⟩

theorem items_reads {item : Reader α} {item? : Value → Option α} (h : item.Reads item?) {vs : List Value}
    (hs : Renders (.items vs) s) (first : Bool) {x : List Char} (hx : Blank x) (r : List Char) :
    (items item first (lead first x ++ (s ++ ']' :: r))).toOption = (vs.mapM item?).map (·, r) := by
  induction vs generalizing first s x with
  | nil => cases hs
  | cons v vs ih =>
    cases hs with
    | lastItem hs =>
      have hends : Ends (']' :: r) := ends_cons (by decide) r
      rcases items_item h first hx hs hends with ⟨a, y, ha, hy, hitems⟩ | ⟨ha, f, hitems⟩
      · simp [hitems, items_close hy, ha, Except.toOption]
      · simp [hitems, ha, Except.toOption]
    | @items _ _ s t hs ht =>
      have hends : Ends (',' :: (t ++ ']' :: r)) := ends_cons (by decide) _
      rw [List.append_assoc, List.cons_append]
      rcases items_item h first hx hs hends with ⟨a, y, ha, hy, hitems⟩ | ⟨ha, f, hitems⟩
      · have hrest := ih ht false hy
        rw [lead_later] at hrest
        rw [hitems, List.mapM_cons, ha]
        rcases toOption_cases hrest with ⟨as, has, hread⟩ | ⟨has, f, hread⟩
        · simp [hread, has, Except.toOption]
        · simp [hread, has, Except.toOption]
      · simp [hitems, ha, Except.toOption]

theorem reads_list {item : Reader α} {item? : Value → Option α} (h : item.Reads item?) :
    (list item).Reads (Value.list? item?) := by
  intro v s hv w r hw hr
  obtain ⟨c, t, hc, hs, hb⟩ := blanks_value hw hv r
  simp only [list, hb]
  by_cases hbracket : c = '['
  · subst hbracket
    obtain ⟨vs, rfl⟩ := Value.eq_list hc
    cases hv with
    | emptyList hx =>
      cases hs
      simp only [List.append_assoc, List.singleton_append, items_close hx]
      rfl
    | list hv =>
      cases hs
      simp only [List.append_assoc, List.singleton_append]
      exact items_reads h hv true blank_nil r
  · have hnone : v.list? item? = none := by
      cases v with
      | list vs => exact (hbracket hc).elim
      | _ => rfl
    rw [hnone]
    split
    · rename_i heq
      exact (hbracket (List.cons.inj heq).1).elim
    · rfl

theorem knownLabel_literal {t : Option String} (h : LiteralText t s) (known : List String)
    (ofLabel? : String → Option α) (r : List Char) :
    (knownLabel known ofLabel? (s ++ '"' :: r)).toOption = (t.bind ofLabel?).map (·, r) := by
  rw [knownLabel]
  rcases toOption_cases (text_literal h r) with ⟨cs, hcs, htext⟩ | ⟨hcs, f, htext⟩
  · obtain ⟨t, rfl, rfl⟩ := Option.map_eq_some_iff.mp hcs
    simp only [htext, String.ofList_toList, Option.bind_some]
    cases ofLabel? t <;> rfl
  · rw [htext, Option.map_eq_none_iff.mp hcs]
    rfl

theorem nothing_value (hw : Blank w) (h : Renders (.value v) s) (r : List Char) :
    v = .null ∧ nothing (w ++ (s ++ r)) = .ok r ∨ v ≠ .null ∧ ∃ f, nothing (w ++ (s ++ r)) = .error f := by
  obtain ⟨c, t, hc, hs, hb⟩ := blanks_value hw h r
  rw [nothing, hb]
  by_cases hn : c = 'n'
  · subst hn
    obtain rfl := Value.eq_null hc
    cases h with
    | null =>
      cases hs
      exact .inl ⟨rfl, rfl⟩
  · right
    constructor
    · rintro rfl
      exact hn hc
    · split
      · rename_i heq
        exact (hn (List.cons.inj heq).1).elim
      · exact ⟨_, rfl⟩

theorem objectTurn_close {first : Bool} (hw : Blank w) (r : List Char) :
    objectTurn first (w ++ '\x7d' :: r) = .ok (.done r) := by
  rw [objectTurn, blanks_append hw, blanks_cons (by decide)]
  rfl

theorem objectTurn_key {first : Bool} {x : List Char} (hx : Blank x) (hw : Blank w) (r : List Char) :
    objectTurn first (lead first x ++ (w ++ '"' :: r)) = .ok (.item r) := by
  have hquote : blanks (w ++ '"' :: r) = '"' :: r := (blanks_append hw _).trans (blanks_cons (by decide) r)
  cases first with
  | true =>
    rw [lead_first, objectTurn, hquote]
    rfl
  | false =>
    rw [lead_later, objectTurn, blanks_append hx, blanks_cons (by decide)]
    simp only [hquote]
    rfl

theorem labelObject_empty (known : List String) (ofLabel? : String → Option α) (hw : Blank w) (r : List Char) :
    (labelObject known ofLabel? (w ++ '\x7d' :: r)).toOption = none := by
  rw [labelObject, objectTurn_close hw]
  rfl

theorem labelObject_member {m : Member} (known : List String) (ofLabel? : String → Option α)
    (hs : Renders (.member m) s) (t : List Char) :
    (∃ a y, m.1.bind ofLabel? = some a ∧ m.2 = .null ∧ Blank y ∧ labelObject known ofLabel? (s ++ t) =
      match blanks (y ++ t) with
      | [] => .error ⟨.endInObject, 0⟩
      | '\x7d' :: w => .ok (a, w)
      | w => .error (.before .expectedValue w)) ∨
    (m.1.bind ofLabel? = none ∨ m.2 ≠ .null) ∧ ∃ f, labelObject known ofLabel? (s ++ t) = .error f := by
  cases hs with
  | @member key v w k x s hw hk hx hv =>
    cases hv with
    | @item _ w' s y hw' hv hy =>
      have hkey : objectTurn true (w ++ '"' :: (k ++ '"' :: (x ++ ':' :: (w' ++ (s ++ (y ++ t)))))) = .ok (.item _) :=
        objectTurn_key blank_nil hw _
      simp only [List.append_assoc, List.cons_append, labelObject, hkey]
      rcases toOption_cases (knownLabel_literal hk known ofLabel? (x ++ ':' :: (w' ++ (s ++ (y ++ t))))) with
        ⟨a, ha, hread⟩ | ⟨ha, f, hread⟩
      · simp only [hread, colon_append hx]
        rcases nothing_value hw' hv (y ++ t) with ⟨hnull, hnothing⟩ | ⟨hnull, f, hnothing⟩
        · simp only [hnothing]
          exact .inl ⟨a, y, ha, hnull, hy, rfl⟩
        · simp only [hnothing]
          exact .inr ⟨.inr hnull, f, rfl⟩
      · simp only [hread]
        exact .inr ⟨.inl ha, f, rfl⟩

theorem label?_single (ofLabel? : String → Option α) (m : Member) (h : m.1.bind ofLabel? = none ∨ m.2 ≠ .null) :
    (Value.object [m]).label? ofLabel? = none := by
  obtain ⟨key, v⟩ := m
  cases v with
  | null => exact h.resolve_right (fun h => h rfl)
  | _ => rfl

theorem label?_more (ofLabel? : String → Option α) (m n : Member) (ms : List Member) :
    (Value.object (m :: n :: ms)).label? ofLabel? = none := by
  obtain ⟨key, v⟩ := m
  cases v <;> rfl

theorem labelObject_members (known : List String) (ofLabel? : String → Option α) {ms : List Member}
    (hs : Renders (.members ms) s) (r : List Char) :
    (labelObject known ofLabel? (s ++ '\x7d' :: r)).toOption =
      ((Value.object ms).label? ofLabel?).map (·, r) := by
  have hclose : ¬ isBlank '\x7d' = true := by decide
  have hcomma : ¬ isBlank ',' = true := by decide
  cases hs with
  | @lastMember m s h =>
    rcases labelObject_member known ofLabel? h ('\x7d' :: r) with ⟨a, y, ha, hnull, hy, hread⟩ | ⟨hnone, f, hread⟩
    · obtain ⟨key, v⟩ := m
      obtain rfl : v = .null := hnull
      rw [hread, blanks_append hy, blanks_cons hclose, Value.label?, ha]
      rfl
    · rw [hread, label?_single ofLabel? m hnone]
      rfl
  | @members m ms s t h ht =>
    cases ms with
    | nil => cases ht
    | cons n ms =>
      rw [List.append_assoc, List.cons_append, label?_more]
      rcases labelObject_member known ofLabel? h (',' :: (t ++ '\x7d' :: r)) with
        ⟨a, y, ha, hnull, hy, hread⟩ | ⟨hnone, f, hread⟩
      · rw [hread, blanks_append hy, blanks_cons hcomma]
        rfl
      · rw [hread]
        rfl

theorem label_refuses {c : Char} {t : List Char} (known : List String) (ofLabel? : String → Option α)
    (hb : blanks s = c :: t) (hq : c ≠ '"') (ho : c ≠ '\x7b') : ((label known ofLabel?).run s).toOption = none := by
  simp only [label, hb]
  split
  · rfl
  · rename_i heq
    exact (hq (List.cons.inj heq).1).elim
  · rename_i heq
    exact (ho (List.cons.inj heq).1).elim
  · rfl

theorem reads_label (known : List String) (ofLabel? : String → Option α) :
    (label known ofLabel?).Reads (Value.label? ofLabel?) := by
  intro v s hv w r hw hr
  obtain ⟨c, t, hc, hs, hb⟩ := blanks_value hw hv r
  have hother : c ≠ '"' → c ≠ '\x7b' → ((label known ofLabel?).run (w ++ (s ++ r))).toOption = none :=
    label_refuses known ofLabel? hb
  cases hv with
  | text h =>
    cases hs
    simp only [label, hb, List.append_assoc, List.singleton_append]
    exact knownLabel_literal h known ofLabel? r
  | emptyObject hx =>
    cases hs
    simp only [label, hb, List.append_assoc, List.singleton_append]
    exact labelObject_empty known ofLabel? hx r
  | object h =>
    cases hs
    simp only [label, hb, List.append_assoc, List.singleton_append]
    exact labelObject_members known ofLabel? h r
  | number _ =>
    apply hother
    · rintro rfl
      cases hc
    · rintro rfl
      cases hc
  | null => exact hother (by rintro rfl; cases hc) (by rintro rfl; cases hc)
  | boolean b => cases b <;> exact hother (by rintro rfl; cases hc) (by rintro rfl; cases hc)
  | emptyList _ => exact hother (by rintro rfl; cases hc) (by rintro rfl; cases hc)
  | list _ => exact hother (by rintro rfl; cases hc) (by rintro rfl; cases hc)

end Reader

end FlowAdmission.Json
