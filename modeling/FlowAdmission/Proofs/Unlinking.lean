import FlowAdmission.Proofs.Linking

namespace FlowAdmission

section Stores

variable {nodes : Store Node} {source destination : Key Node} {e : Edge}

def cleared (nodes : Store Node) (source destination : Key Node) (id : EdgeId) : Store Node :=
  (nodes.set source { nodes source with wiring := ((nodes source).wiring.takeIncoming id).2 }).set
    destination { nodes destination with wiring := ((nodes destination).wiring.takeOutgoing id).2 }

theorem detach_withOutgoing {n : Node} (h : n.Sound) (hd : n.wiring.declares e.relationship.name = true)
    (ho : n.wiring.hasOutgoing e.id = false) :
    (n.withOutgoing e).detach e.id =
      (some e, { n with wiring := (n.wiring.takeIncoming e.id).2 }) := by
  have htake := Wiring.takeOutgoing_addOutgoing h.wiring hd ho
  rw [Node.detach, Node.withOutgoing, htake]
  rfl

theorem detach_withIncoming {n : Node} (hi : n.wiring.hasIncoming e.id = false) :
    (n.withIncoming e).detach e.id =
      ((n.wiring.takeOutgoing e.id).1.or (some e),
        { n with wiring := (n.wiring.takeOutgoing e.id).2 }) := by
  have htake : ((n.wiring.takeOutgoing e.id).2.addIncoming e).takeIncoming e.id =
      (some e, (n.wiring.takeOutgoing e.id).2) := Wiring.takeIncoming_addIncoming hi
  have hout : (n.wiring.addIncoming e).takeOutgoing e.id =
      ((n.wiring.takeOutgoing e.id).1, (n.wiring.takeOutgoing e.id).2.addIncoming e) := rfl
  rw [Node.detach, Node.withIncoming, hout]
  dsimp only
  rw [htake]

theorem detach_absent {n : Node} (h : n.Sound) {id : EdgeId} (ho : n.wiring.hasOutgoing id = false)
    (hi : n.wiring.hasIncoming id = false) : n.detach id = (none, n) := by
  rw [Node.detach, Wiring.takeOutgoing_absent h.wiring ho]
  dsimp only
  rw [Wiring.takeIncoming_absent hi]
  rfl

theorem disconnect_loop {n : Key Node} (h : (nodes n).Sound)
    (hd : (nodes n).wiring.declares e.relationship.name = true)
    (ho : (nodes n).wiring.hasOutgoing e.id = false) (hi : (nodes n).wiring.hasIncoming e.id = false) :
    disconnect (linked nodes n n e) n n e.id = (some e, nodes) := by
  have hboth : (((nodes n).withOutgoing e).withIncoming e).detach e.id = (some e, nodes n) := by
    have htake := Wiring.takeOutgoing_addOutgoing h.wiring hd ho
    rw [detach_withIncoming (n := (nodes n).withOutgoing e) hi, Node.withOutgoing, htake]
    rfl
  rw [linked_eq, Store.set_same, Store.set_set, disconnect, Store.set_same, hboth]
  dsimp only
  rw [Store.set_set, Store.set_self, detach_absent h ho hi]
  dsimp only
  rw [Store.set_self, Option.or_none]

theorem disconnect_linked (hne : source ≠ destination) (h : (nodes source).Sound)
    (hd : (nodes source).wiring.declares e.relationship.name = true)
    (ho : (nodes source).wiring.hasOutgoing e.id = false)
    (hi : (nodes destination).wiring.hasIncoming e.id = false) :
    disconnect (linked nodes source destination e) source destination e.id =
      (some e, cleared nodes source destination e.id) := by
  have hout : linked nodes source destination e source = (nodes source).withOutgoing e := by
    rw [linked_eq, Store.set_other _ _ hne, Store.set_same]
  have hback : linked nodes source destination e destination = (nodes destination).withIncoming e := by
    rw [linked_eq, Store.set_same, Store.set_other _ _ hne.symm]
  rw [disconnect, hout, detach_withOutgoing h hd ho]
  dsimp only
  rw [Store.set_other _ _ hne.symm, hback, detach_withIncoming hi, Option.some_or]
  congr 1
  funext n
  by_cases hnd : n = destination
  · rw [hnd, cleared, Store.set_same, Store.set_same]
  · rw [cleared, Store.set_other _ _ hnd, Store.set_other _ _ hnd]
    by_cases hns : n = source
    · rw [hns, Store.set_same, Store.set_same]
    · rw [Store.set_other _ _ hns, Store.set_other _ _ hns, linked_eq, Store.set_other _ _ hnd,
        Store.set_other _ _ hns]

theorem edgesOf_cleared {id : EdgeId} (hd : (nodes destination).Sound) (n : Key Node) (r : Relationship) :
    (cleared nodes source destination id n).edgesOf r =
      if n = destination then ((nodes n).edgesOf r).filter (·.id ≠ id) else (nodes n).edgesOf r := by
  by_cases hn : n = destination
  · subst hn
    rw [cleared, Store.set_same, if_pos rfl]
    exact Wiring.edgesOf_takeOutgoing hd.wiring id r.name
  · rw [cleared, Store.set_other _ _ hn, if_neg hn]
    apply Store.forall_set (P := fun k m => m.edgesOf r = (nodes k).edgesOf r)
    · rfl
    · intro k _
      rfl

theorem incoming_cleared {id : EdgeId} (hne : source ≠ destination) (hs : (nodes source).Sound)
    (n : Key Node) : (cleared nodes source destination id n).incoming =
      if n = source then (nodes n).incoming.filter (·.id ≠ id) else (nodes n).incoming := by
  by_cases hn : n = source
  · subst hn
    rw [cleared, Store.set_other _ _ hne, Store.set_same, if_pos rfl]
    exact Wiring.incoming_takeIncoming hs.wiring id
  · rw [if_neg hn]
    apply Store.forall_set (P := fun k m => k ≠ source → m.incoming = (nodes k).incoming) _ _ n hn
    · intro _
      rfl
    · intro k _ hk
      rw [Store.set_other _ _ hk]

theorem relationships_cleared (id : EdgeId) (n : Key Node) :
    (cleared nodes source destination id n).relationships = (nodes n).relationships := by
  apply Store.forall_set (P := fun k m => m.relationships = (nodes k).relationships)
  · rfl
  · intro k _
    apply Store.forall_set (P := fun k m => m.relationships = (nodes k).relationships)
    · rfl
    · intro j _
      rfl

theorem cleared_absent {id : EdgeId} (hd : (nodes destination).Sound)
    (hi : (nodes source).wiring.hasIncoming id = false)
    (ho : (nodes destination).wiring.hasOutgoing id = false) :
    cleared nodes source destination id = nodes := by
  rw [cleared, Wiring.takeIncoming_absent hi, Wiring.takeOutgoing_absent hd.wiring ho]
  dsimp only
  rw [Store.set_self, Store.set_self]

end Stores

namespace Flow

variable {f : Flow} {source destination : Key Node} {id : EdgeId} {r : Relationship} {q : Key Queue}

structure ShowsSame (f g : Flow) (n : Key Node) : Prop where
  relationships : (g.nodes n).relationships = (f.nodes n).relationships
  edgesOf : ∀ r, (g.nodes n).edgesOf r = (f.nodes n).edgesOf r
  outgoing : (g.nodes n).outgoing = (f.nodes n).outgoing
  incoming : (g.nodes n).incoming = (f.nodes n).incoming

theorem ShowsSame.of_nodes {g : Flow} (h : g.nodes = f.nodes) (n : Key Node) : ShowsSame f g n := by
  refine ⟨?_, fun r => ?_, ?_, ?_⟩ <;> rw [h]

/-- What connecting and then disconnecting leaves: the edge is gone again, and so is every other edge with
its id that came into the source or went out of the destination. -/
theorem connect_disconnect (hf : f.Reachable) {c : Edge}
    (hc : (f.connect source destination id r q).1 = .ok c) :
    ((f.connect source destination id r q).2.disconnect source destination id).1 = some c ∧
      ((f.connect source destination id r q).2.disconnect source destination id).2.nodes =
        if source = destination then f.nodes else cleared f.nodes source destination id := by
  have hs := hf.sound source
  rw [fst_connect] at hc
  obtain ⟨hd, ho, hi, hreq, hlinked⟩ := connect_of_ok hs hc
  subst hreq
  rw [connect_ok hlinked, fst_disconnect, nodes_disconnect]
  dsimp only
  by_cases hsd : source = destination
  · subst hsd
    have hloop : FlowAdmission.disconnect (linked f.nodes source source (requested f.nodes source source id r q))
        source source id = (some (requested f.nodes source source id r q), f.nodes) :=
      disconnect_loop hs hd ho hi
    rw [hloop, if_pos rfl]
    exact ⟨rfl, rfl⟩
  · have hboth : FlowAdmission.disconnect
        (linked f.nodes source destination (requested f.nodes source destination id r q)) source destination id =
          (some (requested f.nodes source destination id r q), cleared f.nodes source destination id) :=
      disconnect_linked hsd hs hd ho hi
    rw [hboth, if_neg hsd]
    exact ⟨rfl, rfl⟩

theorem disconnect_undoes_connect_iff (hf : f.Reachable) {c : Edge}
    (hc : (f.connect source destination id r q).1 = .ok c) :
    let undone := (f.connect source destination id r q).2.disconnect source destination id
    let noOther := source = destination ∨
      ((∀ e ∈ (f.nodes source).incoming, e.id ≠ id) ∧ ∀ e ∈ (f.nodes destination).outgoing, e.id ≠ id)
    undone.1 = some c ∧
      (ShowsSame f undone.2 source ∧ ShowsSame f undone.2 destination ↔ noOther) ∧
      (noOther → undone.2.nodes = f.nodes) ∧
      (source ≠ destination → ∀ n,
        (undone.2.nodes n).relationships = (f.nodes n).relationships ∧
          (∀ x, (undone.2.nodes n).edgesOf x =
            if n = destination then ((f.nodes n).edgesOf x).filter (·.id ≠ id) else (f.nodes n).edgesOf x) ∧
          (undone.2.nodes n).incoming =
            if n = source then (f.nodes n).incoming.filter (·.id ≠ id) else (f.nodes n).incoming) := by
  dsimp only
  obtain ⟨hanswer, hnodes⟩ := connect_disconnect hf hc
  generalize (f.connect source destination id r q).2.disconnect source destination id = undone at *
  have hs := hf.sound source
  have hd := hf.sound destination
  have hrestored : source = destination ∨ ((∀ e ∈ (f.nodes source).incoming, e.id ≠ id) ∧
      ∀ e ∈ (f.nodes destination).outgoing, e.id ≠ id) → undone.2.nodes = f.nodes := by
    rintro (hsd | ⟨hi, ho⟩)
    · rw [hnodes, if_pos hsd]
    · rw [hnodes, cleared_absent hd ((Node.hasIncoming_eq_false _ id).mpr hi)
        ((Node.hasOutgoing_eq_false_iff_outgoing hd id).mpr ho), ite_self]
  refine ⟨hanswer, ⟨?_, ?_⟩, hrestored, ?_⟩
  · rintro ⟨hss, hsd⟩
    by_cases hne : source = destination
    · exact .inl hne
    · right
      rw [if_neg hne] at hnodes
      constructor
      · have hin := hss.incoming
        rw [hnodes, incoming_cleared hne hs, if_pos rfl, List.filter_eq_self] at hin
        simpa using hin
      · rw [← Node.hasOutgoing_eq_false_iff_outgoing hd, Node.hasOutgoing_eq_false_iff_edgesOf hd]
        intro x
        have hout := hsd.edgesOf x
        rw [hnodes, edgesOf_cleared hd, if_pos rfl, List.filter_eq_self] at hout
        simpa using hout
  · intro h
    exact ⟨.of_nodes (hrestored h) source, .of_nodes (hrestored h) destination⟩
  · intro hne n
    rw [hnodes, if_neg hne]
    exact ⟨relationships_cleared id n, edgesOf_cleared hd n, incoming_cleared hne hs n⟩

theorem fed_restored :
    fed.Reachable ∧
      (fed.connect ⟨1⟩ ⟨2⟩ ⟨"y"⟩ (.named "retry") ⟨3⟩).1 =
        .ok ⟨⟨"y"⟩, ⟨"p"⟩, ⟨"down"⟩, .named "retry", ⟨3⟩⟩ ∧
      ((fed.connect ⟨1⟩ ⟨2⟩ ⟨"y"⟩ (.named "retry") ⟨3⟩).2.disconnect ⟨1⟩ ⟨2⟩ ⟨"y"⟩).2.nodes = fed.nodes := by
  have hc : (fed.connect ⟨1⟩ ⟨2⟩ ⟨"y"⟩ (.named "retry") ⟨3⟩).1 =
      .ok ⟨⟨"y"⟩, ⟨"p"⟩, ⟨"down"⟩, .named "retry", ⟨3⟩⟩ := by decide
  have hundone := disconnect_undoes_connect_iff reachable_fed hc
  exact ⟨reachable_fed, hc, hundone.2.2.1 (.inr ⟨by decide, by decide⟩)⟩

theorem fed_loses_other_edge :
    (fed.connect ⟨1⟩ ⟨2⟩ ⟨"x"⟩ (.named "retry") ⟨3⟩).1 =
        .ok ⟨⟨"x"⟩, ⟨"p"⟩, ⟨"down"⟩, .named "retry", ⟨3⟩⟩ ∧
      (fed.nodes ⟨1⟩).incoming = [⟨⟨"x"⟩, ⟨"up"⟩, ⟨"p"⟩, .named "out", ⟨3⟩⟩] ∧
      (((fed.connect ⟨1⟩ ⟨2⟩ ⟨"x"⟩ (.named "retry") ⟨3⟩).2.disconnect ⟨1⟩ ⟨2⟩ ⟨"x"⟩).2.nodes
        ⟨1⟩).incoming = [] ∧
      (((fed.connect ⟨1⟩ ⟨2⟩ ⟨"x"⟩ (.named "retry") ⟨3⟩).2.disconnect ⟨1⟩ ⟨2⟩ ⟨"x"⟩).2.nodes
        ⟨0⟩).outgoing = [⟨⟨"x"⟩, ⟨"up"⟩, ⟨"p"⟩, .named "out", ⟨3⟩⟩] := by
  decide

end Flow

end FlowAdmission
