import FlowAdmission.Graph.Node
import FlowAdmission.Proofs.Wiring

namespace FlowAdmission

namespace Relationship

theorem firsts_names (rs : List Relationship) : ((firsts rs).map (·.name)).Nodup := by
  induction rs with
  | nil => exact List.nodup_nil
  | cons r rs ih =>
    rw [firsts, List.map_cons, List.nodup_cons]
    constructor
    · intro hm
      obtain ⟨s, hs, hn⟩ := List.mem_map.mp hm
      have hne := (List.mem_filter.mp hs).2
      simp [sameChannel, hn] at hne
    · exact ih.sublist (List.filter_sublist.map _)

end Relationship

namespace Node

variable {n m : Node}

structure Sound (n : Node) : Prop where
  wiring : n.wiring.Sound
  sources : ∀ e ∈ n.wiring.attached, e.source = n.id
  destinations : ∀ e ∈ n.incoming, e.destination = n.id

theorem sound_ofSpec (s : NodeSpec) : (ofSpec s).Sound where
  wiring := Wiring.sound_ofRelationships (Relationship.firsts_names s.relationships)
  sources := by simp [ofSpec, Wiring.ofRelationships, Wiring.attached]
  destinations := by simp [ofSpec, Wiring.ofRelationships, incoming]

def withOutgoing (n : Node) (e : Edge) : Node :=
  { n with wiring := n.wiring.addOutgoing e }

def withIncoming (n : Node) (e : Edge) : Node :=
  { n with wiring := n.wiring.addIncoming e }

theorem attachOutgoing_ok {e : Edge} : n.attachOutgoing e = .ok m ↔
    e.source = n.id ∧ n.wiring.declares e.relationship.name = true ∧ n.wiring.hasOutgoing e.id = false ∧
      m = n.withOutgoing e := by
  by_cases hs : e.source = n.id
  · cases hd : n.wiring.declares e.relationship.name
    · simp [attachOutgoing, hs, hd]
    · cases hid : n.wiring.hasOutgoing e.id
      · simp [attachOutgoing, withOutgoing, hs, hd, hid, eq_comm]
      · simp [attachOutgoing, hs, hd, hid]
  · simp [attachOutgoing, hs]

theorem attachIncoming_ok {e : Edge} : n.attachIncoming e = .ok m ↔
    e.destination = n.id ∧ n.wiring.hasIncoming e.id = false ∧ m = n.withIncoming e := by
  by_cases hd : e.destination = n.id
  · cases hid : n.wiring.hasIncoming e.id
    · simp [attachIncoming, withIncoming, hd, hid, eq_comm]
    · simp [attachIncoming, hd, hid]
  · simp [attachIncoming, hd]

theorem attachIncoming_clash {e : Edge} (hd : e.destination = n.id) (hid : n.wiring.hasIncoming e.id = true) :
    n.attachIncoming e = .error (.alreadyAttached e.id) := by
  simp [attachIncoming, hd, hid]

theorem sound_addRelationship (h : n.Sound) (r : Relationship) : (n.addRelationship r).2.Sound := by
  unfold addRelationship
  split
  · exact h
  · rename_i hr
    exact { h with wiring := Wiring.sound_declare h.wiring (by simpa using hr) }

theorem sound_attachOutgoing (h : n.Sound) {e : Edge} (ha : n.attachOutgoing e = .ok m) : m.Sound := by
  obtain ⟨hs, hd, hid, rfl⟩ := attachOutgoing_ok.mp ha
  refine { h with wiring := Wiring.sound_addOutgoing h.wiring hd hid, sources := ?_ }
  intro x hx
  rcases List.mem_cons.mp ((Wiring.attached_addOutgoing n.wiring e).mem_iff.mp hx) with rfl | hx
  · exact hs
  · exact h.sources x hx

theorem sound_attachIncoming (h : n.Sound) {e : Edge} (ha : n.attachIncoming e = .ok m) : m.Sound := by
  obtain ⟨hd, hid, rfl⟩ := attachIncoming_ok.mp ha
  refine { h with wiring := Wiring.sound_addIncoming h.wiring hid, destinations := ?_ }
  intro x hx
  rcases List.mem_append.mp hx with hx | hx
  · exact h.destinations x hx
  · rw [List.mem_singleton.mp hx]
    exact hd

theorem sound_detachOutgoing (h : n.Sound) (id : EdgeId) : (n.detachOutgoing id).2.Sound := by
  refine { h with wiring := Wiring.sound_takeOutgoing h.wiring id, sources := ?_ }
  intro e he
  rw [detachOutgoing, Wiring.attached_takeOutgoing h.wiring] at he
  exact h.sources e (List.mem_of_mem_filter he)

theorem detach_eq (n : Node) (id : EdgeId) :
    n.detach id = ((n.detachOutgoing id).1.or (n.wiring.takeIncoming id).1,
      { n with wiring := ((n.detachOutgoing id).2.wiring.takeIncoming id).2 }) := rfl

theorem sound_detach (h : n.Sound) (id : EdgeId) : (n.detach id).2.Sound := by
  have ho := sound_detachOutgoing h id
  rw [detach_eq]
  refine { ho with wiring := Wiring.sound_takeIncoming ho.wiring id, destinations := ?_ }
  intro e he
  rw [incoming, Wiring.incoming_takeIncoming ho.wiring] at he
  exact ho.destinations e (List.mem_of_mem_filter he)

inductive Call
  | addRelationship (r : Relationship)
  | attachOutgoing (e : Edge)
  | attachIncoming (e : Edge)
  | detach (id : EdgeId)
  | detachOutgoing (id : EdgeId)

inductive Answer
  | declared (new : Bool)
  | attached
  | refused (why : Refusal)
  | taken (edge : Option Edge)
deriving DecidableEq

def attaching (n : Node) : Except Refusal Node → Answer × Node
  | .ok m => (.attached, m)
  | .error why => (.refused why, n)

def call (n : Node) : Call → Answer × Node
  | .addRelationship r => (.declared (n.addRelationship r).1, (n.addRelationship r).2)
  | .attachOutgoing e => n.attaching (n.attachOutgoing e)
  | .attachIncoming e => n.attaching (n.attachIncoming e)
  | .detach id => (.taken (n.detach id).1, (n.detach id).2)
  | .detachOutgoing id => (.taken (n.detachOutgoing id).1, (n.detachOutgoing id).2)

def calls (n : Node) : List Call → List Answer × Node
  | [] => ([], n)
  | c :: cs => ((n.call c).1 :: ((n.call c).2.calls cs).1, ((n.call c).2.calls cs).2)

theorem calls_append (n : Node) (cs ds : List Call) :
    (n.calls (cs ++ ds)).2 = ((n.calls cs).2.calls ds).2 := by
  induction cs generalizing n with
  | nil => rfl
  | cons c cs ih => exact ih (n.call c).2

theorem call_attachOutgoing {e : Edge} (h : n.attachOutgoing e = .ok m) :
    n.call (.attachOutgoing e) = (.attached, m) := by
  rw [call, h, attaching]

theorem call_attachIncoming {e : Edge} (h : n.attachIncoming e = .ok m) :
    n.call (.attachIncoming e) = (.attached, m) := by
  rw [call, h, attaching]

theorem attaching_cases {P : Node → Prop} {result : Except Refusal Node} (hn : P n)
    (hm : ∀ m, result = .ok m → P m) : P (n.attaching result).2 := by
  cases result with
  | ok m => exact hm m rfl
  | error why => exact hn

theorem call_frame (n : Node) (c : Call) : { (n.call c).2 with wiring := n.wiring } = n := by
  cases c with
  | addRelationship r =>
    rw [call, addRelationship]
    split <;> rfl
  | attachOutgoing e =>
    apply attaching_cases (P := fun m => { m with wiring := n.wiring } = n) rfl
    intro m ha
    obtain ⟨_, _, _, rfl⟩ := attachOutgoing_ok.mp ha
    rfl
  | attachIncoming e =>
    apply attaching_cases (P := fun m => { m with wiring := n.wiring } = n) rfl
    intro m ha
    obtain ⟨_, _, rfl⟩ := attachIncoming_ok.mp ha
    rfl
  | detach id => rfl
  | detachOutgoing id => rfl

theorem calls_frame (n : Node) (cs : List Call) : { (n.calls cs).2 with wiring := n.wiring } = n := by
  induction cs generalizing n with
  | nil => rfl
  | cons c cs ih =>
    have hcs := congrArg (fun m : Node => { m with wiring := n.wiring }) (ih (n.call c).2)
    exact hcs.trans (call_frame n c)

theorem calls_id (n : Node) (cs : List Call) : (n.calls cs).2.id = n.id := by
  have h := congrArg Node.id (calls_frame n cs)
  exact h

theorem sound_call (h : n.Sound) (c : Call) : (n.call c).2.Sound := by
  cases c with
  | addRelationship r => exact sound_addRelationship h r
  | attachOutgoing e => exact attaching_cases h (fun _ ha => sound_attachOutgoing h ha)
  | attachIncoming e => exact attaching_cases h (fun _ ha => sound_attachIncoming h ha)
  | detach id => exact sound_detach h id
  | detachOutgoing id => exact sound_detachOutgoing h id

theorem sound_calls (h : n.Sound) (cs : List Call) : (n.calls cs).2.Sound := by
  induction cs generalizing n with
  | nil => exact h
  | cons c cs ih => exact ih (sound_call h c)

end Node

end FlowAdmission
