import FlowAdmission.Proofs.Runs

namespace FlowAdmission

section Stores

variable {nodes : Store Node} {source destination : Key Node} {id : EdgeId} {r : Relationship} {q : Key Queue}

def linked (nodes : Store Node) (source destination : Key Node) (e : Edge) : Store Node := fun n =>
  let w := (nodes n).wiring
  { nodes n with wiring := { w with
      bundles := if n = source then (w.addOutgoing e).bundles else w.bundles
      incoming := if n = destination then (w.addIncoming e).incoming else w.incoming } }

theorem edgesOf_linked (nodes : Store Node) (source destination : Key Node) (e : Edge) (n : Key Node)
    (r : Relationship) : (linked nodes source destination e n).edgesOf r =
      (nodes n).edgesOf r ++ (if n = source ∧ r.name = e.relationship.name then [e] else []) := by
  by_cases hn : n = source
  · have hadd := Wiring.edgesOf_addOutgoing (nodes n).wiring e r.name
    rw [if_congr (and_iff_right hn) rfl rfl]
    simpa only [Node.edgesOf, Wiring.edgesOf, linked, hn, ↓reduceIte] using hadd
  · simp [linked, Node.edgesOf, Wiring.edgesOf, hn]

theorem incoming_linked (nodes : Store Node) (source destination : Key Node) (e : Edge) (n : Key Node) :
    (linked nodes source destination e n).incoming =
      (nodes n).incoming ++ (if n = destination then [e] else []) := by
  by_cases hd : n = destination
  · simp [linked, Node.incoming, Wiring.addIncoming, hd]
  · simp [linked, Node.incoming, hd]

theorem connect_undeclared (h : (nodes source).wiring.declares r.name = false) :
    connect nodes source destination id r q = (.error (.undeclared (nodes source).id r.name), nodes) := by
  simp [connect, Node.attachOutgoing, h]

theorem connect_outgoing_clash (hd : (nodes source).wiring.declares r.name = true)
    (h : (nodes source).wiring.hasOutgoing id = true) :
    connect nodes source destination id r q = (.error (.alreadyAttached id), nodes) := by
  simp [connect, Node.attachOutgoing, hd, h]

def requested (nodes : Store Node) (source destination : Key Node) (id : EdgeId) (r : Relationship)
    (q : Key Queue) : Edge :=
  ⟨id, (nodes source).id, (nodes destination).id, r, q⟩

theorem connect_refused_back {e : Edge} {why : Refusal} (he : e = requested nodes source destination id r q)
    (ho : (nodes source).attachOutgoing e = .ok ((nodes source).withOutgoing e))
    (hi : ((nodes.set source ((nodes source).withOutgoing e)) destination).attachIncoming e = .error why) :
    connect nodes source destination id r q =
      (.error why, nodes.set source (((nodes source).withOutgoing e).detachOutgoing id).2) := by
  subst he
  rw [requested] at ho hi
  simp only [connect, ho, hi, Store.set_same, Store.set_set]
  rfl

theorem connect_taken_back {e : Edge} {back : Node} (he : e = requested nodes source destination id r q)
    (ho : (nodes source).attachOutgoing e = .ok ((nodes source).withOutgoing e))
    (hi : ((nodes.set source ((nodes source).withOutgoing e)) destination).attachIncoming e = .ok back) :
    connect nodes source destination id r q =
      (.ok e, (nodes.set source ((nodes source).withOutgoing e)).set destination back) := by
  subst he
  rw [requested] at ho hi
  simp only [connect, ho, hi]
  rfl

theorem incoming_set_withOutgoing (nodes : Store Node) (source : Key Node) (e : Edge) (n : Key Node) :
    ((nodes.set source ((nodes source).withOutgoing e)) n).id = (nodes n).id ∧
      ((nodes.set source ((nodes source).withOutgoing e)) n).wiring.incoming = (nodes n).wiring.incoming := by
  apply Store.forall_set (P := fun k m => m.id = (nodes k).id ∧ m.wiring.incoming = (nodes k).wiring.incoming)
  · exact ⟨rfl, rfl⟩
  · intro k _
    exact ⟨rfl, rfl⟩

theorem connect_incoming_clash (h : (nodes source).Sound)
    (hd : (nodes source).wiring.declares r.name = true) (ho : (nodes source).wiring.hasOutgoing id = false)
    (hi : (nodes destination).wiring.hasIncoming id = true) :
    connect nodes source destination id r q = (.error (.alreadyAttached id), nodes) := by
  let e := requested nodes source destination id r q
  obtain ⟨hid, hin⟩ := incoming_set_withOutgoing nodes source e destination
  have hclash : ((nodes.set source ((nodes source).withOutgoing e)) destination).wiring.hasIncoming id = true := by
    rw [Wiring.hasIncoming, hin]
    exact hi
  have hback : (((nodes source).withOutgoing e).detachOutgoing id).2 = nodes source := by
    have htake := Wiring.takeOutgoing_addOutgoing (e := e) h.wiring hd ho
    exact congrArg (fun t : Option Edge × Wiring => { nodes source with wiring := t.2 }) htake
  rw [connect_refused_back rfl (Node.attachOutgoing_ok.mpr ⟨rfl, hd, ho, rfl⟩)
    (Node.attachIncoming_clash hid.symm hclash), hback, Store.set_self]
  rfl

theorem linked_eq (nodes : Store Node) (source destination : Key Node) (e : Edge) :
    linked nodes source destination e =
      (nodes.set source ((nodes source).withOutgoing e)).set destination
        (((nodes.set source ((nodes source).withOutgoing e)) destination).withIncoming e) := by
  funext n
  by_cases hd : n = destination
  · subst hd
    rw [Store.set_same]
    by_cases hs : n = source
    · subst hs
      simp [linked, Store.set_same, Node.withOutgoing, Node.withIncoming, Wiring.addOutgoing, Wiring.addIncoming]
    · simp [linked, Store.set_other _ _ hs, Node.withIncoming, Wiring.addIncoming, hs]
  · rw [Store.set_other _ _ hd]
    by_cases hs : n = source
    · subst hs
      simp [linked, Store.set_same, Node.withOutgoing, Wiring.addOutgoing, hd]
    · simp [linked, Store.set_other _ _ hs, hs, hd]

theorem connect_free (hd : (nodes source).wiring.declares r.name = true)
    (ho : (nodes source).wiring.hasOutgoing id = false)
    (hi : (nodes destination).wiring.hasIncoming id = false) :
    connect nodes source destination id r q =
      (.ok (requested nodes source destination id r q),
        linked nodes source destination (requested nodes source destination id r q)) := by
  let e := requested nodes source destination id r q
  obtain ⟨hid, hin⟩ := incoming_set_withOutgoing nodes source e destination
  have hfree : ((nodes.set source ((nodes source).withOutgoing e)) destination).wiring.hasIncoming id = false := by
    rw [Wiring.hasIncoming, hin]
    exact hi
  rw [connect_taken_back rfl (Node.attachOutgoing_ok.mpr ⟨rfl, hd, ho, rfl⟩)
    (Node.attachIncoming_ok.mpr ⟨hid.symm, hfree, rfl⟩), ← linked_eq]

theorem connect_cases (h : (nodes source).Sound) (destination : Key Node) (id : EdgeId) (r : Relationship)
    (q : Key Queue) :
    ((nodes source).wiring.declares r.name = true ∧ (nodes source).wiring.hasOutgoing id = false ∧
        (nodes destination).wiring.hasIncoming id = false ∧
        connect nodes source destination id r q =
          (.ok (requested nodes source destination id r q),
            linked nodes source destination (requested nodes source destination id r q))) ∨
      connect nodes source destination id r q =
        (.error (if (nodes source).wiring.declares r.name then .alreadyAttached id
          else .undeclared (nodes source).id r.name), nodes) := by
  cases hd : (nodes source).wiring.declares r.name with
  | false => exact .inr (connect_undeclared hd)
  | true =>
    cases ho : (nodes source).wiring.hasOutgoing id with
    | true => exact .inr (connect_outgoing_clash hd ho)
    | false =>
      cases hi : (nodes destination).wiring.hasIncoming id with
      | true => exact .inr (connect_incoming_clash h hd ho hi)
      | false => exact .inl ⟨rfl, rfl, rfl, connect_free hd ho hi⟩

theorem connect_of_ok (h : (nodes source).Sound) {c : Edge}
    (hc : (connect nodes source destination id r q).1 = .ok c) :
    (nodes source).wiring.declares r.name = true ∧ (nodes source).wiring.hasOutgoing id = false ∧
      (nodes destination).wiring.hasIncoming id = false ∧
      c = requested nodes source destination id r q ∧
      connect nodes source destination id r q = (.ok c, linked nodes source destination c) := by
  rcases connect_cases h destination id r q with ⟨hd, ho, hi, hfree⟩ | hrefused
  · rw [hfree] at hc
    cases hc
    exact ⟨hd, ho, hi, rfl, hfree⟩
  · rw [hrefused] at hc
    cases hc

theorem connect_of_error (h : (nodes source).Sound) {why : Refusal}
    (hc : (connect nodes source destination id r q).1 = .error why) :
    connect nodes source destination id r q = (.error why, nodes) ∧
      why = if (nodes source).wiring.declares r.name then .alreadyAttached id
        else .undeclared (nodes source).id r.name := by
  rcases connect_cases h destination id r q with ⟨_, _, _, hfree⟩ | hrefused
  · rw [hfree] at hc
    cases hc
  · rw [hrefused] at hc
    cases hc
    exact ⟨hrefused, rfl⟩

end Stores

theorem Node.hasOutgoing_eq_false_iff_edgesOf {n : Node} (h : n.Sound) (id : EdgeId) :
    n.wiring.hasOutgoing id = false ↔ ∀ r, ∀ e ∈ n.edgesOf r, e.id ≠ id := by
  rw [Wiring.hasOutgoing_eq_false]
  constructor
  · intro hid r e he
    exact hid e ((Wiring.mem_edgesOf h.wiring).mp he).1
  · intro hid e he
    exact hid e.relationship e ((Wiring.mem_edgesOf h.wiring).mpr ⟨he, rfl⟩)

theorem Node.hasOutgoing_eq_false_iff_outgoing {n : Node} (h : n.Sound) (id : EdgeId) :
    n.wiring.hasOutgoing id = false ↔ ∀ e ∈ n.outgoing, e.id ≠ id := by
  rw [Wiring.hasOutgoing_eq_false]
  exact forall_congr' (fun e => by rw [Node.outgoing, Wiring.mem_outgoing h.wiring])

theorem Node.hasIncoming_eq_false (n : Node) (id : EdgeId) :
    n.wiring.hasIncoming id = false ↔ ∀ e ∈ n.incoming, e.id ≠ id :=
  Wiring.hasIncoming_eq_false n.wiring id

namespace Flow

/-- The second flow is the first with one more edge, last in its relationship's group at the source and
last among the incoming edges of the destination. -/
structure Gains (f g : Flow) (source destination : Key Node) (e : Edge) : Prop where
  relationships : ∀ n, (g.nodes n).relationships = (f.nodes n).relationships
  edgesOf : ∀ n r, (g.nodes n).edgesOf r =
    (f.nodes n).edgesOf r ++ (if n = source ∧ r.name = e.relationship.name then [e] else [])
  incoming : ∀ n, (g.nodes n).incoming = (f.nodes n).incoming ++ (if n = destination then [e] else [])
  frame : ∀ n, { g.nodes n with wiring := (f.nodes n).wiring } = f.nodes n
  rest : g = { f with nodes := g.nodes, log := f.log ++ [.connected e] }

variable {f : Flow}

theorem gains_linked (f : Flow) (source destination : Key Node) (e : Edge) :
    f.Gains { f with nodes := linked f.nodes source destination e, log := f.log ++ [.connected e] }
      source destination e where
  relationships _ := rfl
  edgesOf := edgesOf_linked f.nodes source destination e
  incoming := incoming_linked f.nodes source destination e
  frame _ := rfl
  rest := rfl

theorem connect_all_or_nothing (hf : f.Reachable) (source destination : Key Node) (id : EdgeId)
    (r : Relationship) (q : Key Queue) :
    ((∃ c, (f.connect source destination id r q).1 = .ok c) ↔
        (∃ s ∈ (f.nodes source).relationships, s.name = r.name) ∧
          (∀ s, ∀ e ∈ (f.nodes source).edgesOf s, e.id ≠ id) ∧
          ∀ e ∈ (f.nodes destination).incoming, e.id ≠ id) ∧
      (∀ c, (f.connect source destination id r q).1 = .ok c →
        c = ⟨id, (f.nodes source).id, (f.nodes destination).id, r, q⟩ ∧
          f.Gains (f.connect source destination id r q).2 source destination c) ∧
      ∀ why, (f.connect source destination id r q).1 = .error why →
        (f.connect source destination id r q).2 = f ∧
          ((∃ s ∈ (f.nodes source).relationships, s.name = r.name) → why = .alreadyAttached id) ∧
          (¬ (∃ s ∈ (f.nodes source).relationships, s.name = r.name) →
            why = .undeclared (f.nodes source).id r.name) := by
  have hs := hf.sound source
  have hdecl : (∃ s ∈ (f.nodes source).relationships, s.name = r.name) ↔
      (f.nodes source).wiring.declares r.name = true := by
    rw [Wiring.declares_iff, List.mem_map]
    rfl
  rw [hdecl, fst_connect, ← Node.hasOutgoing_eq_false_iff_edgesOf hs, ← Node.hasIncoming_eq_false]
  refine ⟨⟨?_, ?_⟩, ?_, ?_⟩
  · rintro ⟨c, hc⟩
    obtain ⟨hd, ho, hi, _⟩ := connect_of_ok hs hc
    exact ⟨hd, ho, hi⟩
  · rintro ⟨hd, ho, hi⟩
    exact ⟨_, congrArg Prod.fst (connect_free hd ho hi)⟩
  · intro c hc
    obtain ⟨_, _, _, hreq, hlinked⟩ := connect_of_ok hs hc
    refine ⟨hreq, ?_⟩
    rw [connect_ok hlinked]
    exact gains_linked f source destination c
  · intro why hc
    obtain ⟨hsame, hwhy⟩ := connect_of_error hs hc
    refine ⟨?_, ?_, ?_⟩
    · rw [connect_error hsame]
    · intro hd
      rw [hwhy, if_pos hd]
    · intro hd
      rw [hwhy, if_neg hd]

def fed : Flow :=
  empty.run [
    .addNode { NodeSpec.blank with id := ⟨"up"⟩, relationships := [.named "out"] },
    .addNode { NodeSpec.blank with id := ⟨"p"⟩, relationships := [.named "retry"] },
    .addNode { NodeSpec.blank with id := ⟨"down"⟩ },
    .addQueue (.switch true),
    .connect ⟨0⟩ ⟨1⟩ ⟨"x"⟩ (.named "out") ⟨3⟩]

theorem reachable_fed : fed.Reachable :=
  ⟨empty, _, isNew_empty, rfl⟩

theorem fed_keeps_clashing_edge :
    fed.Reachable ∧
      (fed.connect ⟨1⟩ ⟨1⟩ ⟨"x"⟩ (.named "retry") ⟨3⟩).1 = .error (.alreadyAttached ⟨"x"⟩) ∧
      (fed.connect ⟨1⟩ ⟨1⟩ ⟨"x"⟩ (.named "retry") ⟨3⟩).2 = fed := by
  have hrefused : (fed.connect ⟨1⟩ ⟨1⟩ ⟨"x"⟩ (.named "retry") ⟨3⟩).1 = .error (.alreadyAttached ⟨"x"⟩) := by
    decide
  have hall := connect_all_or_nothing reachable_fed ⟨1⟩ ⟨1⟩ ⟨"x"⟩ (.named "retry") ⟨3⟩
  exact ⟨reachable_fed, hrefused, (hall.2.2 _ hrefused).1⟩

end Flow

end FlowAdmission
