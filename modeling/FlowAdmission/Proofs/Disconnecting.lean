import FlowAdmission.Proofs.SelfLoops
import FlowAdmission.Proofs.Unlinking

namespace FlowAdmission

namespace Node

variable {n m : Node} {id : EdgeId}

structure Sheds (n : Node) (id : EdgeId) (m : Node) : Prop where
  relationships : m.relationships = n.relationships
  edgesOf : ∀ r, m.edgesOf r = (n.edgesOf r).filter (·.id ≠ id)
  outgoing : m.outgoing = n.outgoing.filter (·.id ≠ id)
  incoming : m.incoming = n.incoming.filter (·.id ≠ id)
  frame : { m with wiring := n.wiring } = n

structure Lacks (n : Node) (id : EdgeId) : Prop where
  edgesOf : ∀ r, ∀ e ∈ n.edgesOf r, e.id ≠ id
  outgoing : ∀ e ∈ n.outgoing, e.id ≠ id
  incoming : ∀ e ∈ n.incoming, e.id ≠ id
  freeOutgoing : n.wiring.hasOutgoing id = false
  freeIncoming : n.wiring.hasIncoming id = false

theorem outgoing_ids (h : n.Sound) : (n.outgoing.map Edge.id).Nodup := by
  have hperm := (Wiring.outgoing_perm h.wiring).map Edge.id
  exact hperm.nodup_iff.mpr h.wiring.outgoingIds

theorem outgoing_flatMap (n : Node) : n.outgoing = n.relationships.flatMap n.edgesOf :=
  Wiring.outgoing_eq n.wiring

theorem sheds_detach (h : n.Sound) (id : EdgeId) : n.Sheds id (n.detach id).2 := by
  have hedges (r : Relationship) : (n.detach id).2.edgesOf r = (n.edgesOf r).filter (·.id ≠ id) :=
    Wiring.edgesOf_takeOutgoing h.wiring id r.name
  refine ⟨rfl, hedges, ?_, incoming_detach h id, rfl⟩
  rw [outgoing_flatMap, outgoing_flatMap, List.filter_flatMap]
  apply List.flatMap_congr
  intro r _
  exact hedges r

theorem Sheds.lacks (hs : n.Sheds id m) (hm : m.Sound) : m.Lacks id := by
  have hkept {es : List Edge} : ∀ e ∈ es.filter (·.id ≠ id), e.id ≠ id := by
    intro e he
    simpa using (List.mem_filter.mp he).2
  have hedges : ∀ r, ∀ e ∈ m.edgesOf r, e.id ≠ id := by
    intro r
    rw [hs.edgesOf]
    exact hkept
  have hout : ∀ e ∈ m.outgoing, e.id ≠ id := by
    rw [hs.outgoing]
    exact hkept
  have hin : ∀ e ∈ m.incoming, e.id ≠ id := by
    rw [hs.incoming]
    exact hkept
  exact ⟨hedges, hout, hin, (hasOutgoing_eq_false_iff_outgoing hm id).mpr hout,
    (hasIncoming_eq_false m id).mpr hin⟩

theorem fst_detach (h : n.Sound) (id : EdgeId) :
    (n.detach id).1 = (n.outgoing ++ n.incoming).find? (·.id = id) := by
  have hout : (n.detachOutgoing id).1 = n.outgoing.find? (·.id = id) := by
    ext e
    have hfound := Edge.find?_hasId (outgoing_ids h) id e
    rw [outgoing, Wiring.mem_outgoing h.wiring] at hfound
    exact (Wiring.takeOutgoing_fst h.wiring id e).trans hfound.symm
  rw [detach_eq, List.find?_append, hout]
  rfl

theorem Lacks.detach (hl : n.Lacks id) (h : n.Sound) : n.detach id = (none, n) :=
  detach_absent h hl.freeOutgoing hl.freeIncoming

end Node

section Stores

variable {nodes : Store Node} {source destination : Key Node} {id : EdgeId}

/-- The second of two equal nodes has nothing left to give, so its turn counts only where it differs. -/
theorem disconnect_eq (hs : (nodes source).Sound) (hd : (nodes destination).Sound) :
    disconnect nodes source destination id =
      (((nodes source).detach id).1.or ((nodes destination).detach id).1,
        fun n => if n = source ∨ n = destination then ((nodes n).detach id).2 else nodes n) := by
  have hafter (n : Key Node) : ((nodes.set source ((nodes source).detach id).2).set destination
      ((nodes destination).detach id).2) n =
        if n = source ∨ n = destination then ((nodes n).detach id).2 else nodes n := by
    by_cases hn : n = destination
    · rw [hn, Store.set_same, if_pos (.inr rfl)]
    · rw [Store.set_other _ _ hn]
      by_cases hns : n = source
      · rw [hns, Store.set_same, if_pos (.inl rfl)]
      · rw [Store.set_other _ _ hns, if_neg (by tauto)]
  by_cases hsd : source = destination
  · subst hsd
    have hgone := (Node.sheds_detach hs id).lacks (Node.sound_detach hs id)
    have hagain := hgone.detach (Node.sound_detach hs id)
    rw [disconnect]
    simp only [Store.set_same, hagain, Option.or_none, Option.or_self]
    congr 1
    funext n
    rw [← hafter n, Store.set_set]
  · rw [disconnect]
    simp only [Store.set_other _ _ (Ne.symm hsd)]
    congr 1
    funext n
    exact hafter n

theorem disconnect_lacking (hs : (nodes source).Sound) (hd : (nodes destination).Sound)
    (hls : (nodes source).Lacks id) (hld : (nodes destination).Lacks id) :
    disconnect nodes source destination id = (none, nodes) := by
  rw [disconnect_eq hs hd, hls.detach hs, hld.detach hd]
  congr 1
  funext n
  split
  · rename_i hn
    rcases hn with rfl | rfl
    · rw [hls.detach hs]
    · rw [hld.detach hd]
  · rfl

end Stores

namespace Flow

variable {f : Flow}

theorem Reachable.act (h : f.Reachable) (a : Action) : (f.act a).Reachable := by
  obtain ⟨f₀, as, hnew, rfl⟩ := h
  refine ⟨f₀, as ++ [a], hnew, ?_⟩
  rw [run, run, List.foldl_append]
  rfl

theorem disconnect_complete (hf : f.Reachable) (source destination : Key Node) (id : EdgeId) :
    let held := (f.nodes source).outgoing ++ (f.nodes source).incoming ++
      ((f.nodes destination).outgoing ++ (f.nodes destination).incoming)
    let after := f.disconnect source destination id
    (∀ n, n = source ∨ n = destination →
        (after.2.nodes n).Lacks id ∧ (f.nodes n).Sheds id (after.2.nodes n)) ∧
      (∀ n, n ≠ source → n ≠ destination → after.2.nodes n = f.nodes n) ∧
      after.1 = held.find? (·.id = id) ∧
      (after.1 = none ↔ ∀ e ∈ held, e.id ≠ id) ∧
      after.2.disconnect source destination id = (none, after.2) := by
  dsimp only
  have hs := hf.sound source
  have hd := hf.sound destination
  have hafter : (f.disconnect source destination id).2.Reachable :=
    hf.act (.disconnect source destination id)
  have hnodes (n : Key Node) : (f.disconnect source destination id).2.nodes n =
      if n = source ∨ n = destination then ((f.nodes n).detach id).2 else f.nodes n := by
    rw [nodes_disconnect, disconnect_eq hs hd]
  have hsheds : ∀ n, n = source ∨ n = destination →
      (f.nodes n).Sheds id ((f.disconnect source destination id).2.nodes n) := by
    intro n hn
    rw [hnodes, if_pos hn]
    exact Node.sheds_detach (hf.sound n) id
  have hlacks : ∀ n, n = source ∨ n = destination →
      ((f.disconnect source destination id).2.nodes n).Lacks id := by
    intro n hn
    exact (hsheds n hn).lacks (hafter.sound n)
  have hanswer : (f.disconnect source destination id).1 =
      ((f.nodes source).outgoing ++ (f.nodes source).incoming ++
        ((f.nodes destination).outgoing ++ (f.nodes destination).incoming)).find? (·.id = id) := by
    rw [fst_disconnect, disconnect_eq hs hd, List.find?_append, Node.fst_detach hs, Node.fst_detach hd]
  refine ⟨fun n hn => ⟨hlacks n hn, hsheds n hn⟩, ?_, hanswer, ?_, ?_⟩
  · intro n hns hnd
    rw [hnodes, if_neg (not_or.mpr ⟨hns, hnd⟩)]
  · rw [hanswer, List.find?_eq_none]
    apply forall₂_congr
    intro e _
    rw [decide_eq_true_eq]
  · have hagain := disconnect_lacking (hafter.sound source) (hafter.sound destination)
      (hlacks source (.inl rfl)) (hlacks destination (.inr rfl))
    exact disconnect_none hagain

def tangled : Flow :=
  fed.run [
    .connect ⟨1⟩ ⟨1⟩ ⟨"y"⟩ (.named "retry") ⟨3⟩,
    .connect ⟨1⟩ ⟨2⟩ ⟨"x"⟩ (.named "retry") ⟨3⟩]

theorem tangled_cleared :
    tangled.Reachable ∧
      (tangled.disconnect ⟨2⟩ ⟨1⟩ ⟨"x"⟩).1 = some ⟨⟨"x"⟩, ⟨"p"⟩, ⟨"down"⟩, .named "retry", ⟨3⟩⟩ ∧
      ((tangled.disconnect ⟨2⟩ ⟨1⟩ ⟨"x"⟩).2.nodes ⟨1⟩).outgoing =
        [⟨⟨"y"⟩, ⟨"p"⟩, ⟨"p"⟩, .named "retry", ⟨3⟩⟩] ∧
      ((tangled.disconnect ⟨2⟩ ⟨1⟩ ⟨"x"⟩).2.disconnect ⟨2⟩ ⟨1⟩ ⟨"x"⟩).1 = none := by
  have hreach : tangled.Reachable :=
    (reachable_fed.act (.connect ⟨1⟩ ⟨1⟩ ⟨"y"⟩ (.named "retry") ⟨3⟩)).act
      (.connect ⟨1⟩ ⟨2⟩ ⟨"x"⟩ (.named "retry") ⟨3⟩)
  obtain ⟨hends, _, hanswer, _, hagain⟩ := disconnect_complete hreach ⟨2⟩ ⟨1⟩ ⟨"x"⟩
  refine ⟨hreach, ?_, ?_, ?_⟩
  · rw [hanswer]
    decide
  · rw [(hends ⟨1⟩ (.inr rfl)).2.outgoing]
    decide
  · rw [hagain]

end Flow

end FlowAdmission
