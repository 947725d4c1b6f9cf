import FlowAdmission.Proofs.Formats
import FlowAdmission.Proofs.Rendering
import Mathlib.Data.List.Forall2

namespace FlowAdmission

open Json

namespace Json

variable {β : Type}

def Gives (ms : List Member) (key : String) (Says : Value → β → Prop) (b : β) : Prop :=
  ∃ v, values key ms = [v] ∧ Says v b

def GivesOr (usual : β) (ms : List Member) (key : String) (Says : Value → β → Prop) (b : β) : Prop :=
  Gives ms key Says b ∨ values key ms = [] ∧ b = usual

def SaysText (v : Value) (t : String) : Prop :=
  v = .text (some t)

def SaysBoolean (v : Value) (b : Bool) : Prop :=
  v = .boolean b

def SaysUnsigned (v : Value) (n : UInt64) : Prop :=
  ∃ ds, v = .number ⟨false, ds, [], none⟩ ∧ Nat.ofDigitChars 10 ds 0 = n.toNat

def SaysList (Says : Value → β → Prop) (v : Value) (bs : List β) : Prop :=
  ∃ vs, v = .list vs ∧ List.Forall₂ Says vs bs

end Json

def Category.Says (v : Value) (c : Category) : Prop :=
  v = .text (some c.label) ∨ v = .object [(some c.label, .null)]

inductive Relationship.Says : Value → Relationship → Prop
  | object {ms : List Member} {r : Relationship} (keys : ∀ m ∈ ms, m.1 ≠ none)
      (name : Gives ms "name" SaysText r.name)
      (description : GivesOr "" ms "description" SaysText r.description) : Says (.object ms) r
  | name (n : String) : Says (.list [.text (some n)]) ⟨n, ""⟩
  | both (n d : String) : Says (.list [.text (some n), .text (some d)]) ⟨n, d⟩

/-- The members of an object describe a node: no key fails to be a string, and each known one is there as
often, and with such a value, as it must be. -/
structure NodeSpec.Documents (ms : List Member) (n : NodeSpec) : Prop where
  keys : ∀ m ∈ ms, m.1 ≠ none
  id : Gives ms "id" SaysText n.id.text
  name : Gives ms "name" SaysText n.name
  componentType : Gives ms "component_type" SaysText n.componentType
  category : GivesOr .processor ms "category" Category.Says n.category
  relationships : GivesOr [] ms "relationships" (SaysList Relationship.Says) n.relationships
  triggersOnAny : GivesOr false ms "trigger_when_any_destination_available" SaysBoolean n.triggersOnAny
  tasks : GivesOr 1 ms "max_concurrent_tasks" SaysUnsigned n.tasks

namespace Json

section Meanings

variable {α β : Type} {v : Value}

theorem text?_iff {t : String} : v.text? = some t ↔ SaysText v t := by
  cases v <;> simp [Value.text?, SaysText]

theorem boolean?_iff {b : Bool} : v.boolean? = some b ↔ SaysBoolean v b := by
  cases v <;> simp [Value.boolean?, SaysBoolean]

theorem unsigned_iff {k : UInt64} : v.integer?.bind unsigned? = some k ↔ SaysUnsigned v k := by
  constructor
  · intro h
    obtain ⟨n, hn, h⟩ := Option.bind_eq_some_iff.mp h
    rw [unsigned?, Option.ite_none_right_eq_some, Option.some_inj] at h
    obtain ⟨hpos, rfl⟩ := h
    cases v with
    | number m =>
      obtain ⟨negative, ds, f, e⟩ := m
      rw [Value.integer?, Numeral.integer?, Option.ite_none_right_eq_some] at hn
      obtain ⟨⟨rfl, rfl⟩, hn⟩ := hn
      cases negative with
      | true =>
        simp only [if_true, Option.ite_none_right_eq_some, Option.some_inj] at hn
        omega
      | false =>
        simp only [Bool.false_eq_true, if_false, Option.ite_none_right_eq_some, Option.some_inj] at hn
        obtain ⟨hsize, rfl⟩ := hn
        refine ⟨ds, rfl, ?_⟩
        rw [Int.toNat_natCast]
        exact (UInt64.toNat_ofNat_of_lt hsize).symm
    | _ => cases hn
  · rintro ⟨ds, rfl, hds⟩
    have hsize := k.toNat_lt_size
    simp only [Value.integer?, Numeral.integer?, and_self, if_true, Bool.false_eq_true, if_false, hds, if_pos hsize]
    simp [unsigned?]

theorem label?_iff {ofLabel? : String → Option α} {a : α} : v.label? ofLabel? = some a ↔
    ∃ t, ofLabel? t = some a ∧ (v = .text (some t) ∨ v = .object [(some t, .null)]) := by
  constructor
  · intro h
    unfold Value.label? at h
    split at h
    · obtain ⟨t, rfl, ht⟩ := Option.bind_eq_some_iff.mp h
      exact ⟨t, ht, .inl rfl⟩
    · obtain ⟨t, rfl, ht⟩ := Option.bind_eq_some_iff.mp h
      exact ⟨t, ht, .inr rfl⟩
    · cases h
  · rintro ⟨t, ht, rfl | rfl⟩
    · exact ht
    · exact ht

theorem mapM_iff {item? : Value → Option β} {Says : Value → β → Prop} (h : ∀ v b, item? v = some b ↔ Says v b)
    {vs : List Value} {bs : List β} : vs.mapM item? = some bs ↔ List.Forall₂ Says vs bs := by
  induction vs generalizing bs with
  | nil => simp [eq_comm]
  | cons v vs ih =>
    rw [List.forall₂_cons_left_iff, List.mapM_cons]
    constructor
    · intro hbs
      obtain ⟨b, hb, hbs⟩ := Option.bind_eq_some_iff.mp hbs
      obtain ⟨bs', hbs', hcons⟩ := Option.bind_eq_some_iff.mp hbs
      exact ⟨b, bs', (h v b).mp hb, ih.mp hbs', (Option.some.inj hcons).symm⟩
    · rintro ⟨b, bs', hb, hbs', rfl⟩
      rw [(h v b).mpr hb, ih.mpr hbs']
      rfl

theorem list?_iff {item? : Value → Option β} {Says : Value → β → Prop} (h : ∀ v b, item? v = some b ↔ Says v b)
    {bs : List β} : v.list? item? = some bs ↔ SaysList Says v bs := by
  cases v with
  | list vs => simp [Value.list?, SaysList, mapM_iff h]
  | _ => simp [Value.list?, SaysList]

end Meanings

section Slots

variable {α : Type} {slot : Slot α} {blank a : α} {ms : List Member} {Says : Value → slot.Held → Prop}

theorem holds_iff_gives (hr : slot.required = true) (h : ∀ v b, slot.value? v = some b ↔ Says v b) :
    slot.Holds blank ms a ↔ Gives ms slot.name Says (slot.get a) := by
  simp [Slot.Holds, Gives, hr, h]

theorem holds_iff_givesOr (hr : slot.required = false) (h : ∀ v b, slot.value? v = some b ↔ Says v b) :
    slot.Holds blank ms a ↔ GivesOr (slot.get blank) ms slot.name Says (slot.get a) := by
  simp [Slot.Holds, GivesOr, Gives, hr, h]

end Slots

section Order

variable {β : Type} {ms ms' : List Member} {key : String} {Says : Value → β → Prop} {b usual : β}

theorem values_perm (h : ms.Perm ms') (key : String) : (values key ms).Perm (values key ms') :=
  h.filterMap _

theorem Gives.perm (h : Gives ms key Says b) (hms : ms.Perm ms') : Gives ms' key Says b := by
  obtain ⟨v, hv, hb⟩ := h
  have hperm := values_perm hms key
  rw [hv, List.singleton_perm] at hperm
  exact ⟨v, hperm.symm, hb⟩

theorem GivesOr.perm (h : GivesOr usual ms key Says b) (hms : ms.Perm ms') : GivesOr usual ms' key Says b := by
  rcases h with h | ⟨hnil, hb⟩
  · exact .inl (h.perm hms)
  · have hperm := values_perm hms key
    rw [hnil, List.nil_perm] at hperm
    exact .inr ⟨hperm, hb⟩

end Order

end Json

theorem Category.label?_iff_says {v : Value} {c : Category} :
    v.label? Category.ofLabel? = some c ↔ Category.Says v c := by
  rw [label?_iff]
  constructor
  · rintro ⟨t, ht, hv⟩
    rwa [← Category.label_of_ofLabel? ht] at hv
  · exact fun hv => ⟨c.label, Category.ofLabel?_label c, hv⟩

theorem Relationship.meaning_iff_says {v : Value} {r : Relationship} :
    Record.meaning Relationship.slots (.named "") v = some r ↔ Relationship.Says v r := by
  constructor
  · intro h
    cases v with
    | object ms =>
      obtain ⟨hkeys, hslots⟩ := (Record.meaning_object_iff Relationship.lawful_slots _ r).mp h
      simp only [Relationship.slots, List.forall_mem_cons] at hslots
      obtain ⟨hname, hdescription, _⟩ := hslots
      exact .object hkeys ((holds_iff_gives rfl fun _ _ => text?_iff).mp hname)
        ((holds_iff_givesOr rfl fun _ _ => text?_iff).mp hdescription)
    | list vs =>
      rcases vs with _ | ⟨v, _ | ⟨w, _ | ⟨u, vs⟩⟩⟩
      · cases h
      · obtain ⟨n, hn, h⟩ := Option.bind_eq_some_iff.mp h
        obtain rfl := text?_iff.mp hn
        obtain rfl : (⟨n, ""⟩ : Relationship) = r := Option.some.inj h
        exact .name n
      · obtain ⟨n, hn, h⟩ := Option.bind_eq_some_iff.mp h
        obtain ⟨d, hd, h⟩ := Option.bind_eq_some_iff.mp h
        obtain rfl := text?_iff.mp hn
        obtain rfl := text?_iff.mp hd
        obtain rfl : (⟨n, d⟩ : Relationship) = r := Option.some.inj h
        exact .both n d
      · obtain ⟨n, _, h⟩ := Option.bind_eq_some_iff.mp h
        obtain ⟨d, _, h⟩ := Option.bind_eq_some_iff.mp h
        cases h
    | _ => cases h
  · intro h
    cases h with
    | object hkeys hname hdescription =>
      refine (Record.meaning_object_iff Relationship.lawful_slots _ r).mpr ⟨hkeys, ?_⟩
      simp only [Relationship.slots, List.forall_mem_cons]
      exact ⟨(holds_iff_gives rfl fun _ _ => text?_iff).mpr hname,
        (holds_iff_givesOr rfl fun _ _ => text?_iff).mpr hdescription, List.forall_mem_nil _⟩
    | name n => rfl
    | both n d => rfl

namespace NodeSpec

variable {ms ms' : List Member} {n : NodeSpec}

theorem Documents.perm (h : Documents ms n) (hms : ms.Perm ms') : Documents ms' n where
  keys m hm := h.keys m (hms.mem_iff.mpr hm)
  id := h.id.perm hms
  name := h.name.perm hms
  componentType := h.componentType.perm hms
  category := h.category.perm hms
  relationships := h.relationships.perm hms
  triggersOnAny := h.triggersOnAny.perm hms
  tasks := h.tasks.perm hms

theorem meaning_iff_documents : Record.meaning slots blank (.object ms) = some n ↔ Documents ms n := by
  rw [Record.meaning_object_iff lawful_slots]
  simp only [slots, List.forall_mem_cons]
  constructor
  · rintro ⟨keys, id, name, componentType, category, relationships, trigger, tasks, _⟩
    exact {
      keys
      id := (holds_iff_gives rfl fun _ _ => text?_iff).mp id
      name := (holds_iff_gives rfl fun _ _ => text?_iff).mp name
      componentType := (holds_iff_gives rfl fun _ _ => text?_iff).mp componentType
      category := (holds_iff_givesOr rfl fun _ _ => Category.label?_iff_says).mp category
      relationships := (holds_iff_givesOr rfl fun _ _ => list?_iff fun _ _ => Relationship.meaning_iff_says).mp relationships
      triggersOnAny := (holds_iff_givesOr rfl fun _ _ => boolean?_iff).mp trigger
      tasks := (holds_iff_givesOr rfl fun _ _ => unsigned_iff).mp tasks }
  · intro h
    exact ⟨h.keys,
      (holds_iff_gives rfl fun _ _ => text?_iff).mpr h.id,
      (holds_iff_gives rfl fun _ _ => text?_iff).mpr h.name,
      (holds_iff_gives rfl fun _ _ => text?_iff).mpr h.componentType,
      (holds_iff_givesOr rfl fun _ _ => Category.label?_iff_says).mpr h.category,
      (holds_iff_givesOr rfl fun _ _ => list?_iff fun _ _ => Relationship.meaning_iff_says).mpr h.relationships,
      (holds_iff_givesOr rfl fun _ _ => boolean?_iff).mpr h.triggersOnAny,
      (holds_iff_givesOr rfl fun _ _ => unsigned_iff).mpr h.tasks,
      List.forall_mem_nil _⟩

variable {before s after : List Char}

theorem ofText_iff_documents (hb : Blank before) (hs : Renders (.value (.object ms)) s) (ha : Blank after) :
    ofText (.ofList (before ++ (s ++ after))) = .ok n ↔ Documents ms n := by
  rw [← meaning_iff_documents, ← parse_value reads_format hb hs ha, ofText, String.toList_ofList]
  cases parse format.reader (before ++ (s ++ after)) <;> simp [Except.toOption]

theorem ofText_accepts_documents (hb : Blank before) (hs : Renders (.value (.object ms)) s) (ha : Blank after) :
    (∀ n, ofText (.ofList (before ++ (s ++ after))) = .ok n ↔ Documents ms n) ∧
    ((∀ n, ¬ Documents ms n) →
      ∃ detail, ofText (.ofList (before ++ (s ++ after))) = .error (.misconfigured detail)) ∧
    ∀ {ms' : List Member} {before' s' after' : List Char}, Blank before' →
      Renders (.value (.object ms')) s' → Blank after' → ms.Perm ms' →
        ∀ n, ofText (.ofList (before' ++ (s' ++ after'))) = .ok n ↔
          ofText (.ofList (before ++ (s ++ after))) = .ok n := by
  refine ⟨fun n => ofText_iff_documents hb hs ha, fun hnone => ?_, fun hb' hs' ha' hms n => ?_⟩
  · cases hread : ofText (.ofList (before ++ (s ++ after))) with
    | ok n => exact (hnone n ((ofText_iff_documents hb hs ha).mp hread)).elim
    | error e =>
      rw [ofText] at hread
      split at hread
      · cases hread
      · cases hread
        exact ⟨_, rfl⟩
  · rw [ofText_iff_documents hb' hs' ha', ofText_iff_documents hb hs ha]
    exact ⟨fun h => h.perm hms.symm, fun h => h.perm hms⟩

def funnelMembers : List Member := [
  (some "name", .text (some "merge")),
  (some "note", .list [integerValue (-1), .object [(some "id", .null)]]),
  (some "category", .object [(some "FUNNEL", .null)]),
  (some "id", .text (some "m")),
  (some "relationships", .list [.list [.text (some "merged")]]),
  (some "component_type", .text (some "Merge"))]

def funnelText : List Char :=
  writtenObject [
    ("name", writtenText "merge"),
    ("note", writtenList [writtenInt (-1), writtenObject [("id", null)]]),
    ("category", writtenObject [("FUNNEL", null)]),
    ("id", writtenText "m"),
    ("relationships", writtenList [writtenList [writtenText "merged"]]),
    ("component_type", writtenText "Merge")]

theorem funnel_accepted_empty_refused :
    ofText (.ofList (['\n'] ++ (funnelText ++ [' ']))) =
      .ok ⟨⟨"m"⟩, "merge", "Merge", .funnel, [⟨"merged", ""⟩], false, 1⟩ ∧
    ∃ detail, ofText (.ofList (['\n'] ++ (writtenObject [] ++ [' ']))) = .error (.misconfigured detail) := by
  have hs : Renders (.value (.object funnelMembers)) funnelText :=
    renders_object (.cons ⟨rfl, renders_text _⟩
      (.cons ⟨rfl, renders_list (.cons (renders_int _) (.cons (renders_object (.cons ⟨rfl, .null⟩ .nil)) .nil))⟩
      (.cons ⟨rfl, renders_object (.cons ⟨rfl, .null⟩ .nil)⟩ (.cons ⟨rfl, renders_text _⟩
      (.cons ⟨rfl, renders_list (.cons (renders_list (.cons (renders_text _) .nil)) .nil)⟩
      (.cons ⟨rfl, renders_text _⟩ .nil))))))
  have hdocuments : Documents funnelMembers ⟨⟨"m"⟩, "merge", "Merge", .funnel, [⟨"merged", ""⟩], false, 1⟩ :=
    { keys := by simp [funnelMembers]
      id := ⟨_, rfl, rfl⟩
      name := ⟨_, rfl, rfl⟩
      componentType := ⟨_, rfl, rfl⟩
      category := .inl ⟨_, rfl, .inr rfl⟩
      relationships := .inl ⟨_, rfl, _, rfl, .cons (.name "merged") .nil⟩
      triggersOnAny := .inr ⟨rfl, rfl⟩
      tasks := .inr ⟨rfl, rfl⟩ }
  have hbefore : Blank ['\n'] := by simp [Blank]
  have hafter : Blank [' '] := by simp [Blank]
  refine ⟨((ofText_accepts_documents hbefore hs hafter).1 _).mpr hdocuments, ?_⟩
  refine (ofText_accepts_documents hbefore (renders_object .nil) hafter).2.1 fun n h => ?_
  obtain ⟨v, hv, _⟩ := h.id
  cases hv

end NodeSpec

end FlowAdmission
