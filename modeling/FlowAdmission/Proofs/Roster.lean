import FlowAdmission.Proofs.Calls

namespace FlowAdmission

/-- A node seen as its declared relationships and one list of edges for each side, both in the order in
which the edges were attached. -/
structure Roster where
  node : NodeId
  relationships : List Relationship
  outgoing : List Edge
  incoming : List Edge
deriving DecidableEq

namespace Roster

variable {t : Roster} {n : Node}

def names (t : Roster) : List String :=
  t.relationships.map (·.name)

def declare (t : Roster) (r : Relationship) : Roster :=
  if r.name ∈ t.names then t else { t with relationships := t.relationships ++ [r] }

def ofSpec (s : NodeSpec) : Roster :=
  s.relationships.foldl declare ⟨s.id, [], [], []⟩

def call (t : Roster) : Node.Call → Node.Answer × Roster
  | .addRelationship r => (.declared (r.name ∉ t.names), t.declare r)
  | .attachOutgoing e =>
    if e.source ≠ t.node then (.refused (.foreign t.node e.id), t)
    else if e.relationship.name ∉ t.names then
      (.refused (.undeclared t.node e.relationship.name), t)
    else if e.id ∈ t.outgoing.map (·.id) then (.refused (.alreadyAttached e.id), t)
    else (.attached, { t with outgoing := t.outgoing ++ [e] })
  | .attachIncoming e =>
    if e.destination ≠ t.node then (.refused (.foreign t.node e.id), t)
    else if e.id ∈ t.incoming.map (·.id) then (.refused (.alreadyAttached e.id), t)
    else (.attached, { t with incoming := t.incoming ++ [e] })
  | .detach id =>
    (.taken ((t.outgoing.find? (·.id = id)).or (t.incoming.find? (·.id = id))),
      { t with
        outgoing := t.outgoing.filter (·.id ≠ id)
        incoming := t.incoming.filter (·.id ≠ id) })
  | .detachOutgoing id =>
    (.taken (t.outgoing.find? (·.id = id)), { t with outgoing := t.outgoing.filter (·.id ≠ id) })

def calls (t : Roster) : List Node.Call → List Node.Answer × Roster
  | [] => ([], t)
  | c :: cs => ((t.call c).1 :: ((t.call c).2.calls cs).1, ((t.call c).2.calls cs).2)

structure Describes (t : Roster) (n : Node) : Prop where
  node : n.id = t.node
  relationships : n.relationships = t.relationships
  edgesOf : ∀ name, n.wiring.edgesOf name = t.outgoing.filter (·.relationship.name = name)
  incoming : n.incoming = t.incoming

theorem foldl_declare (rs : List Relationship) (t : Roster) :
    rs.foldl declare t =
      { t with relationships := t.relationships ++ (Relationship.firsts rs).filter (·.name ∉ t.names) } := by
  induction rs generalizing t with
  | nil => simp [Relationship.firsts]
  | cons r rs ih =>
    rw [List.foldl_cons, ih, Relationship.firsts]
    by_cases hr : r.name ∈ t.names
    · have hd : t.declare r = t := if_pos hr
      rw [hd, List.filter_cons_of_neg (by simpa using hr), List.filter_filter]
      congr 2
      apply List.filter_congr
      intro s _
      by_cases hs : s.name = r.name
      · simp [hs, hr]
      · simp [Relationship.sameChannel, Ne.symm hs]
    · have hd : t.declare r = { t with relationships := t.relationships ++ [r] } := if_neg hr
      rw [hd, List.filter_cons_of_pos (by simpa using hr), List.filter_filter]
      simp only [names, List.map_append, List.map_singleton, List.append_assoc, List.singleton_append]
      congr 3
      apply List.filter_congr
      intro s _
      by_cases hs : s.name = r.name
      · simp [Relationship.sameChannel, hs]
      · simp [Relationship.sameChannel, hs, Ne.symm hs]

theorem describes_ofSpec (s : NodeSpec) : (ofSpec s).Describes (.ofSpec s) := by
  rw [ofSpec, foldl_declare]
  refine ⟨rfl, ?_, fun _ => rfl, rfl⟩
  simp [Node.relationships, Node.ofSpec, Wiring.ofRelationships, names]

namespace Describes

theorem perm (d : t.Describes n) (h : n.Sound) : t.outgoing.Perm n.wiring.attached := by
  rw [List.perm_iff_count]
  intro e
  have hcount (es : List Edge) :
      (es.filter (·.relationship.name = e.relationship.name)).count e = es.count e :=
    List.count_filter (by simp)
  rw [← hcount t.outgoing, ← d.edgesOf, Wiring.edgesOf_eq h.wiring, hcount]

theorem declares (d : t.Describes n) (name : String) :
    n.wiring.declares name = decide (name ∈ t.names) := by
  rw [Bool.eq_iff_iff, Wiring.declares_iff, decide_eq_true_eq, names, ← d.relationships]
  rfl

theorem hasOutgoing (d : t.Describes n) (h : n.Sound) (id : EdgeId) :
    n.wiring.hasOutgoing id = decide (id ∈ t.outgoing.map (·.id)) := by
  rw [Bool.eq_iff_iff, Wiring.hasOutgoing_iff, decide_eq_true_eq, ((d.perm h).map _).mem_iff, List.mem_map]

theorem hasIncoming (d : t.Describes n) (id : EdgeId) :
    n.wiring.hasIncoming id = decide (id ∈ t.incoming.map (·.id)) := by
  rw [Bool.eq_iff_iff, Wiring.hasIncoming_iff, decide_eq_true_eq, List.mem_map, ← d.incoming]
  rfl

theorem takeOutgoing (d : t.Describes n) (h : n.Sound) (id : EdgeId) :
    (n.wiring.takeOutgoing id).1 = t.outgoing.find? (·.id = id) := by
  have hids : (t.outgoing.map (·.id)).Nodup := ((d.perm h).map _).nodup_iff.mpr h.wiring.outgoingIds
  ext e
  rw [Wiring.takeOutgoing_fst h.wiring, ← (d.perm h).mem_iff]
  exact (Edge.find?_hasId hids id e).symm

theorem addRelationship (d : t.Describes n) (r : Relationship) :
    (t.call (.addRelationship r)).1 = (n.call (.addRelationship r)).1 ∧
      (t.call (.addRelationship r)).2.Describes (n.call (.addRelationship r)).2 := by
  simp only [call, Node.call, Node.addRelationship, d.declares, declare]
  by_cases hr : r.name ∈ t.names
  · simpa [hr] using d
  · simp only [hr, decide_false, not_false_eq_true, decide_true, Bool.false_eq_true, ↓reduceIte, true_and]
    refine ⟨d.node, ?_, d.edgesOf, d.incoming⟩
    rw [← d.relationships]
    rfl

theorem attachOutgoing (d : t.Describes n) (h : n.Sound) (e : Edge) :
    (t.call (.attachOutgoing e)).1 = (n.call (.attachOutgoing e)).1 ∧
      (t.call (.attachOutgoing e)).2.Describes (n.call (.attachOutgoing e)).2 := by
  simp only [call, Node.call, Node.attachOutgoing, d.declares, d.hasOutgoing h, d.node]
  by_cases hs : e.source = t.node
  · by_cases hr : e.relationship.name ∈ t.names
    · by_cases hid : e.id ∈ t.outgoing.map (·.id)
      · simpa [hs, hr, hid, Node.attaching] using d
      · simp only [hs, hr, hid, ne_eq, not_true_eq_false, decide_true, decide_false, Bool.not_true,
          Bool.false_eq_true, ↓reduceIte, Node.attaching, true_and]
        refine ⟨rfl, d.relationships, ?_, d.incoming⟩
        intro name
        rw [Wiring.edgesOf_addOutgoing, d.edgesOf, List.filter_append]
        by_cases hn : name = e.relationship.name
        · simp [hn]
        · simp [hn, Ne.symm hn]
    · simpa [hs, hr, Node.attaching] using d
  · simpa [hs, Node.attaching] using d

theorem attachIncoming (d : t.Describes n) (e : Edge) :
    (t.call (.attachIncoming e)).1 = (n.call (.attachIncoming e)).1 ∧
      (t.call (.attachIncoming e)).2.Describes (n.call (.attachIncoming e)).2 := by
  simp only [call, Node.call, Node.attachIncoming, d.hasIncoming, d.node]
  by_cases hd : e.destination = t.node
  · by_cases hid : e.id ∈ t.incoming.map (·.id)
    · simpa [hd, hid, Node.attaching] using d
    · simp only [hd, hid, ne_eq, not_true_eq_false, decide_false, Bool.false_eq_true, ↓reduceIte,
        Node.attaching, true_and]
      refine ⟨rfl, d.relationships, d.edgesOf, ?_⟩
      rw [← d.incoming]
      rfl
  · simpa [hd, Node.attaching] using d

theorem detachOutgoing (d : t.Describes n) (h : n.Sound) (id : EdgeId) :
    (t.call (.detachOutgoing id)).1 = (n.call (.detachOutgoing id)).1 ∧
      (t.call (.detachOutgoing id)).2.Describes (n.call (.detachOutgoing id)).2 := by
  refine ⟨?_, d.node, d.relationships, ?_, d.incoming⟩
  · rw [call, Node.call, Node.detachOutgoing, d.takeOutgoing h]
  · intro name
    rw [Node.call, Node.detachOutgoing, Wiring.edgesOf_takeOutgoing h.wiring, d.edgesOf, call, List.filter_comm]

theorem detach (d : t.Describes n) (h : n.Sound) (id : EdgeId) :
    (t.call (.detach id)).1 = (n.call (.detach id)).1 ∧
      (t.call (.detach id)).2.Describes (n.call (.detach id)).2 := by
  have ho := (d.detachOutgoing h id).2
  have hs := Node.sound_detachOutgoing h id
  refine ⟨?_, d.node, d.relationships, ho.edgesOf, ?_⟩
  · rw [call, Node.call, Node.detach_eq, Node.detachOutgoing, d.takeOutgoing h, ← d.incoming]
    rfl
  · rw [Node.call, Node.detach_eq, Node.incoming, Wiring.incoming_takeIncoming hs.wiring, call, ← d.incoming]
    rfl

theorem call (d : t.Describes n) (h : n.Sound) (c : Node.Call) :
    (t.call c).1 = (n.call c).1 ∧ (t.call c).2.Describes (n.call c).2 := by
  cases c with
  | addRelationship r => exact d.addRelationship r
  | attachOutgoing e => exact d.attachOutgoing h e
  | attachIncoming e => exact d.attachIncoming e
  | detach id => exact d.detach h id
  | detachOutgoing id => exact d.detachOutgoing h id

theorem calls (d : t.Describes n) (h : n.Sound) (cs : List Node.Call) :
    (t.calls cs).1 = (n.calls cs).1 ∧ (t.calls cs).2.Describes (n.calls cs).2 := by
  induction cs generalizing t n with
  | nil => exact ⟨rfl, d⟩
  | cons c cs ih =>
    obtain ⟨hc, hd⟩ := d.call h c
    obtain ⟨hcs, hds⟩ := ih hd (Node.sound_call h c)
    refine ⟨?_, hds⟩
    rw [Roster.calls, Node.calls, hc, hcs]

end Describes

theorem calls_refine_roster (s : NodeSpec) (cs : List Node.Call) :
    let n := (Node.ofSpec s).calls cs
    let t := (ofSpec s).calls cs
    n.1 = t.1 ∧
      n.2.relationships = t.2.relationships ∧
      (∀ r, n.2.edgesOf r = t.2.outgoing.filter (·.relationship.name = r.name)) ∧
      n.2.incoming = t.2.incoming ∧
      n.2.outgoing = t.2.relationships.flatMap (fun r => t.2.outgoing.filter (·.relationship.name = r.name)) ∧
      n.2.outgoing.Perm t.2.outgoing ∧
      (n.2.relationships.map (·.name)).Nodup ∧
      (n.2.outgoing.map (·.id)).Nodup ∧
      (n.2.incoming.map (·.id)).Nodup ∧
      (∀ e ∈ n.2.outgoing, e.source = s.id ∧ ∃ r ∈ n.2.relationships, r.name = e.relationship.name) ∧
      ∀ e ∈ n.2.incoming, e.destination = s.id := by
  dsimp only
  obtain ⟨ha, d⟩ := (describes_ofSpec s).calls (Node.sound_ofSpec s) cs
  have h := Node.sound_calls (Node.sound_ofSpec s) cs
  have hid := Node.calls_id (.ofSpec s) cs
  generalize (Node.ofSpec s).calls cs = n at *
  generalize (ofSpec s).calls cs = t at *
  have hout := Wiring.outgoing_perm h.wiring
  refine ⟨ha.symm, d.relationships, fun r => d.edgesOf r.name, d.incoming, ?_, hout.trans (d.perm h).symm,
    h.wiring.names, (hout.map _).nodup_iff.mpr h.wiring.outgoingIds, h.wiring.incomingIds, ?_, ?_⟩
  · rw [Node.outgoing, Wiring.outgoing_eq, ← d.relationships]
    exact List.flatMap_congr (fun r _ => d.edgesOf r.name)
  · intro e he
    have hea := hout.mem_iff.mp he
    refine ⟨(h.sources e hea).trans hid, ?_⟩
    exact List.mem_map.mp ((Wiring.declares_iff _ _).mp (Wiring.mem_attached_declared h.wiring hea))
  · intro e he
    exact (h.destinations e he).trans hid

end Roster

end FlowAdmission
