import FlowAdmission.Json.Record
import FlowAdmission.Proofs.Meanings

namespace FlowAdmission.Json

/-- A field together with what a value says of it and the place where the record keeps that. -/
structure Slot (α : Type) where
  Held : Type
  name : String
  required : Bool
  read : Reader Held
  value? : Value → Option Held
  reads : read.Reads value?
  get : α → Held
  set : Held → α → α

variable {α : Type}

def Slot.field (slot : Slot α) : Field α :=
  ⟨slot.name, slot.required, slot.read.map slot.set⟩

def values (key : String) (ms : List Member) : List Value :=
  ms.filterMap fun m => if m.1 = some key then some m.2 else none

def Slot.Holds (slot : Slot α) (blank : α) (ms : List Member) (a : α) : Prop :=
  (∃ v, values slot.name ms = [v] ∧ slot.value? v = some (slot.get a)) ∨
    slot.required = false ∧ values slot.name ms = [] ∧ slot.get a = slot.get blank

namespace Record

open RecordFormat (Draft)
open Reader (lead lead_later listTurn_close listTurn_value objectTurn_close objectTurn_key)

variable (slots : List (Slot α))

def slot? (name : String) : Option (Slot α) :=
  slots.find? (·.name == name)

def ofMember (draft : Draft α) (m : Member) : Option (Draft α) :=
  m.1.bind fun key =>
    match slot? slots key with
    | none => some draft
    | some slot =>
      if draft.met.contains slot.name then none
      else (slot.value? m.2).map fun b => ⟨slot.set b draft.record, slot.name :: draft.met⟩

def ofMembers (draft : Draft α) : List Member → Option (Draft α)
  | [] => some draft
  | m :: ms => (ofMember slots draft m).bind (ofMembers · ms)

def ofElements (record : α) : List (Slot α) → List Value → Option α
  | slots, [] => if slots.any (·.required) then none else some record
  | [], _ :: _ => none
  | slot :: slots, v :: vs => (slot.value? v).bind fun b => ofElements (slot.set b record) slots vs

def meaning (blank : α) : Value → Option α
  | .object ms =>
    (ofMembers slots ⟨blank, []⟩ ms).bind fun draft =>
      if slots.all (fun slot => !slot.required || draft.met.contains slot.name) then some draft.record else none
  | .list vs => ofElements blank slots vs
  | _ => none

section Reading

variable {slots} {format : RecordFormat α} {m : Member} {w s r : List Char}

theorem field?_eq (hf : format.fields = slots.map Slot.field) (name : String) :
    format.field? name = (slot? slots name).map Slot.field := by
  rw [RecordFormat.field?, hf, List.find?_map]
  rfl

theorem member_reads (hf : format.fields = slots.map Slot.field) (draft : Draft α) (hs : Renders (.member m) s)
    (hr : Ends r) :
    ∃ w u x, s = w ++ '"' :: u ∧ Blank w ∧ Blank x ∧
      (format.member draft (u ++ r)).toOption = (ofMember slots draft m).map (·, x ++ r) := by
  cases hs with
  | @member key v w k x s hw hk hx hv =>
    cases hv with
    | @item _ w' s y hw' hv hy =>
      refine ⟨w, _, y, rfl, hw, hy, ?_⟩
      have hends : Ends (y ++ r) := hy.ends hr
      simp only [List.append_assoc, List.cons_append, RecordFormat.member]
      rcases toOption_cases (text_literal hk (x ++ ':' :: (w' ++ (s ++ (y ++ r))))) with ⟨cs, hcs, htext⟩ | ⟨hcs, f, htext⟩
      · obtain ⟨key, rfl, rfl⟩ := Option.map_eq_some_iff.mp hcs
        simp only [htext, String.ofList_toList, field?_eq hf, ofMember, Option.bind_some]
        cases slot? slots key with
        | none =>
          simp only [Option.map_none, colon_append hx, skipValue_renders hw' hv hends]
          rfl
        | some slot =>
          simp only [Option.map_some, Slot.field]
          split
          · rfl
          · simp only [colon_append hx]
            rcases toOption_cases ((Reader.Reads.map slot.reads slot.set) hv hw' hends) with ⟨change, hchange, hrun⟩ | ⟨hnone, f, hrun⟩
            · obtain ⟨b, hb, rfl⟩ := Option.map_eq_some_iff.mp hchange
              simp only [hrun, hb]
              rfl
            · simp only [hrun, Option.map_eq_none_iff.mp hnone]
              rfl
      · obtain rfl := Option.map_eq_none_iff.mp hcs
        simp only [htext]
        rfl

theorem members_close {draft : Draft α} {first : Bool} (hw : Blank w) (r : List Char) :
    format.members draft first (w ++ '\x7d' :: r) = .ok (draft, r) := by
  rw [RecordFormat.members_eq, objectTurn_close hw]

theorem members_member (hf : format.fields = slots.map Slot.field) (draft : Draft α) (first : Bool)
    {x : List Char} (hx : Blank x) (hs : Renders (.member m) s) (hr : Ends r) :
    (∃ draft' y, ofMember slots draft m = some draft' ∧ Blank y ∧
      format.members draft first (lead first x ++ (s ++ r)) = format.members draft' false (y ++ r)) ∨
    ofMember slots draft m = none ∧ ∃ f, format.members draft first (lead first x ++ (s ++ r)) = .error f := by
  obtain ⟨w, u, y, rfl, hw, hy, hread⟩ := member_reads hf draft hs hr
  rw [RecordFormat.members_eq, List.append_assoc, List.cons_append, objectTurn_key hx hw]
  rcases toOption_cases hread with ⟨draft', hdraft, hmember⟩ | ⟨hdraft, f, hmember⟩
  · simp only [hmember]
    exact .inl ⟨draft', y, hdraft, hy, rfl⟩
  · simp only [hmember]
    exact .inr ⟨hdraft, f, rfl⟩

theorem members_reads (hf : format.fields = slots.map Slot.field) {ms : List Member} (draft : Draft α)
    (hs : Renders (.members ms) s) (first : Bool) {x : List Char} (hx : Blank x) (r : List Char) :
    (format.members draft first (lead first x ++ (s ++ '\x7d' :: r))).toOption =
      (ofMembers slots draft ms).map (·, r) := by
  induction ms generalizing draft first s x with
  | nil => cases hs
  | cons m ms ih =>
    cases hs with
    | lastMember hs =>
      have hends : Ends ('\x7d' :: r) := ends_cons (by decide) r
      rcases members_member hf draft first hx hs hends with ⟨draft', y, hdraft, hy, hread⟩ | ⟨hdraft, f, hread⟩
      · rw [hread, members_close hy, ofMembers, hdraft]
        rfl
      · rw [hread, ofMembers, hdraft]
        rfl
    | @members _ _ s t hs ht =>
      have hends : Ends (',' :: (t ++ '\x7d' :: r)) := ends_cons (by decide) _
      rw [List.append_assoc, List.cons_append]
      rcases members_member hf draft first hx hs hends with ⟨draft', y, hdraft, hy, hread⟩ | ⟨hdraft, f, hread⟩
      · have hrest := ih draft' ht false hy
        rw [lead_later] at hrest
        rw [hread, hrest, ofMembers, hdraft]
        rfl
      · rw [hread, ofMembers, hdraft]
        rfl

theorem missing?_eq (hf : format.fields = slots.map Slot.field) (draft : Draft α) :
    (format.missing? draft).isNone =
      slots.all (fun slot => !slot.required || draft.met.contains slot.name) := by
  rw [RecordFormat.missing?, hf, List.find?_map, Option.isNone_map, Bool.eq_iff_iff, Option.isNone_iff_eq_none,
    List.find?_eq_none, List.all_eq_true]
  refine forall₂_congr fun slot _ => ?_
  change ¬ (slot.required && !draft.met.contains slot.name) = true ↔ _
  cases slot.required <;> cases draft.met.contains slot.name <;> decide

theorem object_reads (hf : format.fields = slots.map Slot.field) {ms : List Member} {u t : List Char}
    (hu : (format.members ⟨format.blank, []⟩ true u).toOption =
      (ofMembers slots ⟨format.blank, []⟩ ms).map (·, t)) :
    (format.object u).toOption = (meaning slots format.blank (.object ms)).map (·, t) := by
  rw [RecordFormat.object, meaning]
  rcases toOption_cases hu with ⟨draft, hdraft, hread⟩ | ⟨hdraft, f, hread⟩
  · simp only [hread, hdraft, Option.bind_some, ← missing?_eq hf]
    cases format.missing? draft <;> rfl
  · simp only [hread, hdraft]
    rfl

theorem closeElements_close (hw : Blank w) (r : List Char) :
    RecordFormat.closeElements (w ++ ']' :: r) = .ok r := by
  have hb : blanks (w ++ ']' :: r) = ']' :: r := (blanks_append hw _).trans (blanks_cons (by decide) r)
  simp only [RecordFormat.closeElements, hb]

theorem closeElements_refuses {c : Char} (hs : blanks s = c :: r) (hc : c ≠ ']') :
    ∃ f, RecordFormat.closeElements s = .error f := by
  unfold RecordFormat.closeElements
  split
  · exact ⟨_, rfl⟩
  · rename_i hclose
    exact (hc (List.cons.inj (hs.symm.trans hclose)).1).elim
  · split <;> exact ⟨_, rfl⟩
  · exact ⟨_, rfl⟩

variable (format) in
theorem elements_close (first : Bool) (record : α) (hw : Blank w) (r : List Char) (slots : List (Slot α)) :
    (format.elements first record (w ++ ']' :: r) (slots.map Slot.field)).toOption =
      (ofElements record slots []).map (·, r) := by
  cases slots with
  | nil =>
    rw [List.map_nil, RecordFormat.elements, closeElements_close hw]
    rfl
  | cons slot slots =>
    have hany : ((slot :: slots).map Slot.field).findIdx? (·.required) = none ↔
        (slot :: slots).any (·.required) = false := by
      simp [Slot.field]
    rw [List.map_cons, RecordFormat.elements, listTurn_close hw, ← List.map_cons, ofElements]
    cases hfind : ((slot :: slots).map Slot.field).findIdx? (·.required) with
    | none => simp [hany.mp hfind, Except.toOption]
    | some i =>
      have htrue : (slot :: slots).any (·.required) = true := by
        rw [← Bool.not_eq_false, ← hany, hfind]
        exact Option.some_ne_none i
      simp [htrue, Except.toOption]

theorem blanks_lead {vs : List Value} (hs : Renders (.items vs) s) (first : Bool) {x : List Char} (hx : Blank x)
    (r : List Char) : ∃ c t, c ≠ ']' ∧ blanks (lead first x ++ (s ++ r)) = c :: t := by
  cases first with
  | true => exact blanks_items hs r
  | false =>
    refine ⟨',', s ++ r, by decide, ?_⟩
    rw [lead_later, blanks_append hx]
    exact blanks_cons (by decide) _

variable (format) in
theorem elements_element (first : Bool) (record : α) {x : List Char} (hx : Blank x) {v : Value}
    (hs : Renders (.item v) s) (hr : Ends r) (slot : Slot α) (fields : List (Field α)) :
    (∃ b y, slot.value? v = some b ∧ Blank y ∧
      format.elements first record (lead first x ++ (s ++ r)) (slot.field :: fields) =
        format.elements false (slot.set b record) (y ++ r) fields) ∨
    slot.value? v = none ∧
      ∃ f, format.elements first record (lead first x ++ (s ++ r)) (slot.field :: fields) = .error f := by
  cases hs with
  | @item _ w s y hw hv hy =>
    have hrun := (Reader.Reads.map slot.reads slot.set) hv blank_nil (hy.ends hr)
    rw [List.nil_append] at hrun
    rw [List.append_assoc, List.append_assoc, RecordFormat.elements, listTurn_value hx hw hv]
    rcases toOption_cases hrun with ⟨change, hchange, hread⟩ | ⟨hnone, f, hread⟩
    · obtain ⟨b, hb, rfl⟩ := Option.map_eq_some_iff.mp hchange
      simp only [Slot.field, hread]
      exact .inl ⟨b, y, hb, hy, rfl⟩
    · simp only [Slot.field, hread]
      exact .inr ⟨Option.map_eq_none_iff.mp hnone, f, rfl⟩

variable (format) in
theorem elements_reads {vs : List Value} (slots : List (Slot α)) (record : α) (hs : Renders (.items vs) s)
    (first : Bool) {x : List Char} (hx : Blank x) (r : List Char) :
    (format.elements first record (lead first x ++ (s ++ ']' :: r)) (slots.map Slot.field)).toOption =
      (ofElements record slots vs).map (·, r) := by
  induction vs generalizing slots record first s x with
  | nil => cases hs
  | cons v vs ih =>
    cases slots with
    | nil =>
      obtain ⟨c, t, hc, hb⟩ := blanks_lead hs first hx (']' :: r)
      obtain ⟨f, hf⟩ := closeElements_refuses hb hc
      rw [List.map_nil, RecordFormat.elements, hf]
      rfl
    | cons slot slots =>
      rw [List.map_cons]
      cases hs with
      | lastItem hs =>
        have hends : Ends (']' :: r) := ends_cons (by decide) r
        rcases elements_element format first record hx hs hends slot (slots.map Slot.field) with
          ⟨b, y, hb, hy, hread⟩ | ⟨hb, f, hread⟩
        · rw [hread, elements_close format false _ hy]
          simp only [ofElements, hb, Option.bind_some]
        · rw [hread, ofElements, hb]
          rfl
      | @items _ _ s t hs ht =>
        have hends : Ends (',' :: (t ++ ']' :: r)) := ends_cons (by decide) _
        rw [List.append_assoc, List.cons_append]
        rcases elements_element format first record hx hs hends slot (slots.map Slot.field) with
          ⟨b, y, hb, hy, hread⟩ | ⟨hb, f, hread⟩
        · have hrest := ih slots (slot.set b record) ht false hy
          rw [lead_later] at hrest
          rw [hread, hrest, ofElements, hb]
          rfl
        · rw [hread, ofElements, hb]
          rfl

theorem reads_record (hf : format.fields = slots.map Slot.field) :
    format.reader.Reads (meaning slots format.blank) := by
  intro v s hv w r hw hr
  obtain ⟨c, t, hc, hs, hb⟩ := blanks_value hw hv r
  simp only [RecordFormat.reader, hb]
  by_cases hscalar : c ≠ '\x7b' ∧ c ≠ '['
  · have hnone : meaning slots format.blank v = none := by
      cases v with
      | object ms => exact (hscalar.1 hc).elim
      | list vs => exact (hscalar.2 hc).elim
      | _ => rfl
    rw [hnone]
    split
    · rename_i heq
      exact (hscalar.1 (List.cons.inj heq).1).elim
    · rename_i heq
      exact (hscalar.2 (List.cons.inj heq).1).elim
    · rfl
  · cases hv with
    | emptyObject hx =>
      cases hs
      simp only [List.append_assoc, List.singleton_append]
      exact object_reads hf (by rw [members_close hx]; rfl)
    | object hv =>
      cases hs
      simp only [List.append_assoc, List.singleton_append]
      exact object_reads hf (members_reads hf _ hv true blank_nil r)
    | emptyList hx =>
      cases hs
      simp only [List.append_assoc, List.singleton_append, hf]
      exact elements_close format true _ hx r slots
    | list hv =>
      cases hs
      simp only [List.append_assoc, List.singleton_append, hf]
      exact elements_reads format slots _ hv true blank_nil r
    | boolean b => cases b <;> cases hc <;> exact (hscalar ⟨by decide, by decide⟩).elim
    | number _ =>
      refine (hscalar ⟨?_, ?_⟩).elim
      · rintro rfl
        cases hc
      · rintro rfl
        cases hc
    | null => cases hc; exact (hscalar ⟨by decide, by decide⟩).elim
    | text _ => cases hc; exact (hscalar ⟨by decide, by decide⟩).elim

end Reading

structure Lawful (slots : List (Slot α)) : Prop where
  names : ∀ slot ∈ slots, ∀ other ∈ slots, slot.name = other.name → slot = other
  get_set : ∀ slot ∈ slots, ∀ b a, slot.get (slot.set b a) = b
  get_other : ∀ slot ∈ slots, ∀ other ∈ slots, slot.name ≠ other.name → ∀ b a, slot.get (other.set b a) = slot.get a
  ext : ∀ a a', (∀ slot ∈ slots, slot.get a = slot.get a') → a = a'

section Meaning

variable {slots} {draft draft' : Draft α} {key : String} {slot : Slot α} {m : Member} {ms : List Member}

theorem values_same {v : Value} : values key ((some key, v) :: ms) = v :: values key ms :=
  List.filterMap_cons_some (if_pos rfl)

theorem values_other (h : m.1 ≠ some key) : values key (m :: ms) = values key ms :=
  List.filterMap_cons_none (if_neg h)

theorem slot?_some (h : slot? slots key = some slot) : slot ∈ slots ∧ slot.name = key :=
  ⟨List.mem_of_find?_eq_some h, by simpa using List.find?_some h⟩

theorem slot?_none (h : slot? slots key = none) (hslot : slot ∈ slots) : slot.name ≠ key := by
  simpa using List.find?_eq_none.mp h slot hslot

theorem ofMember_cases (h : ofMember slots draft m = some draft') :
    ∃ key, m.1 = some key ∧ (slot? slots key = none ∧ draft' = draft ∨
      ∃ slot b, slot? slots key = some slot ∧ slot.name ∉ draft.met ∧ slot.value? m.2 = some b ∧
        draft' = ⟨slot.set b draft.record, slot.name :: draft.met⟩) := by
  obtain ⟨key, hkey, h⟩ := Option.bind_eq_some_iff.mp h
  refine ⟨key, hkey, ?_⟩
  split at h
  · rename_i hnone
    cases h
    exact .inl ⟨hnone, rfl⟩
  · rename_i slot hsome
    split at h
    · cases h
    · rename_i hmet
      obtain ⟨b, hb, rfl⟩ := Option.map_eq_some_iff.mp h
      exact .inr ⟨slot, b, hsome, by simpa using hmet, hb, rfl⟩

theorem ofMembers_keys (h : ofMembers slots draft ms = some draft') : ∀ m ∈ ms, m.1 ≠ none := by
  induction ms generalizing draft with
  | nil => exact List.forall_mem_nil _
  | cons m ms ih =>
    obtain ⟨draft₁, hm, hms⟩ := Option.bind_eq_some_iff.mp h
    obtain ⟨key, hkey, _⟩ := ofMember_cases hm
    exact List.forall_mem_cons.mpr ⟨hkey ▸ Option.some_ne_none key, ih hms⟩

theorem ofMembers_slot (laws : Lawful slots) (hslot : slot ∈ slots) (h : ofMembers slots draft ms = some draft') :
    values slot.name ms = [] ∧ slot.get draft'.record = slot.get draft.record ∧
        (slot.name ∈ draft'.met ↔ slot.name ∈ draft.met) ∨
      ∃ v, values slot.name ms = [v] ∧ slot.value? v = some (slot.get draft'.record) ∧
        slot.name ∉ draft.met ∧ slot.name ∈ draft'.met := by
  induction ms generalizing draft with
  | nil =>
    cases h
    exact .inl ⟨rfl, rfl, Iff.rfl⟩
  | cons m ms ih =>
    obtain ⟨draft₁, hm, hms⟩ := Option.bind_eq_some_iff.mp h
    obtain ⟨key, v⟩ := m
    obtain ⟨key, rfl, ⟨hnone, rfl⟩ | ⟨other, b, hsome, hmet, hb, rfl⟩⟩ := ofMember_cases hm
    · rw [values_other (by simpa using (slot?_none hnone hslot).symm)]
      exact ih hms
    · obtain ⟨hother, rfl⟩ := slot?_some hsome
      by_cases hname : slot.name = other.name
      · obtain rfl := laws.names slot hslot other hother hname
        rw [values_same]
        -- once met, the slot is met for all members behind, which therefore leave it
        rcases ih hms with ⟨hvs, hget, hin⟩ | ⟨_, _, _, hnew, _⟩
        · refine .inr ⟨v, by rw [hvs], ?_, hmet, hin.mpr List.mem_cons_self⟩
          rw [hget, laws.get_set slot hslot, hb]
        · exact (hnew List.mem_cons_self).elim
      · rw [values_other (by simpa using Ne.symm hname)]
        have hcons : slot.name ∈ other.name :: draft.met ↔ slot.name ∈ draft.met := by simp [hname]
        rcases ih hms with ⟨hvs, hget, hin⟩ | ⟨v', hvs, hget, hnew, hin⟩
        · exact .inl ⟨hvs, hget.trans (laws.get_other slot hslot other hother hname _ _), hin.trans hcons⟩
        · exact .inr ⟨v', hvs, hget, fun h => hnew (hcons.mpr h), hin⟩

theorem ofMembers_some (hkeys : ∀ m ∈ ms, m.1 ≠ none) (hslots : ∀ slot ∈ slots, values slot.name ms = [] ∨
      slot.name ∉ draft.met ∧ ∃ v b, values slot.name ms = [v] ∧ slot.value? v = some b) :
    ∃ draft', ofMembers slots draft ms = some draft' := by
  induction ms generalizing draft with
  | nil => exact ⟨draft, rfl⟩
  | cons m ms ih =>
    obtain ⟨hkey, hrest⟩ := List.forall_mem_cons.mp hkeys
    obtain ⟨key, v⟩ := m
    obtain ⟨key, rfl⟩ := Option.ne_none_iff_exists'.mp hkey
    have hother {slot : Slot α} (hname : slot.name ≠ key) : values slot.name ((some key, v) :: ms) = values slot.name ms :=
      values_other (by simpa using hname.symm)
    cases hfind : slot? slots key with
    | none =>
      have hm : ofMember slots draft (some key, v) = some draft := by simp only [ofMember, Option.bind_some, hfind]
      rw [ofMembers, hm]
      refine ih hrest fun slot hslot => ?_
      rw [← hother (slot?_none hfind hslot)]
      exact hslots slot hslot
    | some slot =>
      obtain ⟨hslot, rfl⟩ := slot?_some hfind
      rcases hslots slot hslot with hvs | ⟨hmet, v', b, hvs, hb⟩
      · rw [values_same] at hvs
        cases hvs
      · rw [values_same] at hvs
        obtain ⟨rfl, hnil⟩ := List.cons.inj hvs
        have hm : ofMember slots draft (some slot.name, v) = some ⟨slot.set b draft.record, slot.name :: draft.met⟩ := by
          simp [ofMember, hfind, hmet, hb]
        rw [ofMembers, hm]
        refine ih hrest fun slot' hslot' => ?_
        by_cases hname : slot'.name = slot.name
        · exact .inl (hname ▸ hnil)
        · rw [← hother hname]
          rcases hslots slot' hslot' with hvs' | ⟨hmet', h⟩
          · exact .inl hvs'
          · exact .inr ⟨by simp [hname, hmet'], h⟩

theorem meaning_object_iff (laws : Lawful slots) (blank a : α) :
    meaning slots blank (.object ms) = some a ↔
      (∀ m ∈ ms, m.1 ≠ none) ∧ ∀ slot ∈ slots, slot.Holds blank ms a := by
  constructor
  · intro h
    obtain ⟨draft, hms, h⟩ := Option.bind_eq_some_iff.mp h
    rw [Option.ite_none_right_eq_some, Option.some_inj] at h
    obtain ⟨hall, rfl⟩ := h
    refine ⟨ofMembers_keys hms, fun slot hslot => ?_⟩
    rcases ofMembers_slot laws hslot hms with ⟨hvs, hget, hmet⟩ | ⟨v, hvs, hget, _, _⟩
    · have hslot := List.all_eq_true.mp hall slot hslot
      have hnot : draft.met.contains slot.name = false := by simpa using mt hmet.mp List.not_mem_nil
      rw [hnot, Bool.or_false, Bool.not_eq_true'] at hslot
      exact .inr ⟨hslot, hvs, hget⟩
    · exact .inl ⟨v, hvs, hget⟩
  · rintro ⟨hkeys, hslots⟩
    have hsome : ∃ draft, ofMembers slots ⟨blank, []⟩ ms = some draft := by
      refine ofMembers_some hkeys fun slot hslot => ?_
      rcases hslots slot hslot with ⟨v, hvs, hv⟩ | ⟨_, hvs, _⟩
      · exact .inr ⟨List.not_mem_nil, v, _, hvs, hv⟩
      · exact .inl hvs
    obtain ⟨draft, hms⟩ := hsome
    have hall : slots.all (fun slot => !slot.required || draft.met.contains slot.name) = true := by
      refine List.all_eq_true.mpr fun slot hslot => ?_
      rcases hslots slot hslot with ⟨v, hvs, _⟩ | ⟨hfree, _, _⟩
      · rcases ofMembers_slot laws hslot hms with ⟨hnil, _, _⟩ | ⟨_, _, _, _, hmet⟩
        · rw [hvs] at hnil
          cases hnil
        · simp [hmet]
      · simp [hfree]
    have hrecord : draft.record = a := by
      refine laws.ext _ _ fun slot hslot => ?_
      rcases ofMembers_slot laws hslot hms with ⟨hnil, hget, _⟩ | ⟨v, hone, hget, _, _⟩
      · rcases hslots slot hslot with ⟨_, hvs, _⟩ | ⟨_, _, hblank⟩
        · rw [hvs] at hnil
          cases hnil
        · exact hget.trans hblank.symm
      · rcases hslots slot hslot with ⟨_, hvs, hv⟩ | ⟨_, hvs, _⟩
        · rw [hvs] at hone
          cases hone
          exact Option.some.inj (hget.symm.trans hv)
        · rw [hvs] at hone
          cases hone
    rw [meaning, hms, Option.bind_some, if_pos hall, hrecord]

end Meaning

end Record

theorem parse_value {reader : Reader α} {meaning : Value → Option α} (h : reader.Reads meaning) {v : Value}
    {before s after : List Char} (hb : Blank before) (hs : Renders (.value v) s) (ha : Blank after) :
    (parse reader (before ++ (s ++ after))).toOption = meaning v := by
  have hends : Ends after := List.append_nil after ▸ ha.ends ends_nil
  have hend : blanks after = [] := List.append_nil after ▸ blanks_append ha []
  rw [parse]
  rcases toOption_cases (h hs hb hends) with ⟨a, hm, hrun⟩ | ⟨hm, f, hrun⟩
  · simp only [hrun, hend, hm]
    rfl
  · simp only [hrun, hm]
    rfl

end FlowAdmission.Json
