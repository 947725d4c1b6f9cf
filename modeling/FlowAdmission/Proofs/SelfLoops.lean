import FlowAdmission.Proofs.Linking
import Mathlib.Data.Set.Function

namespace FlowAdmission

namespace Node

variable {n : Node}

def LoopsBack (n : Node) : Prop :=
  ∀ e ∈ n.wiring.attached, e.isSelfLoop = true → e ∈ n.incoming

theorem loopsBack_ofSpec (s : NodeSpec) : (ofSpec s).LoopsBack := by
  intro e he
  simp [ofSpec, Wiring.ofRelationships, Wiring.attached] at he

theorem loopsBack_addRelationship (hl : n.LoopsBack) (r : Relationship) :
    (n.addRelationship r).2.LoopsBack := by
  unfold addRelationship
  split
  · exact hl
  · exact hl

theorem loopsBack_detachOutgoing (h : n.Sound) (hl : n.LoopsBack) (id : EdgeId) :
    (n.detachOutgoing id).2.LoopsBack := by
  intro e he hloop
  rw [detachOutgoing, Wiring.attached_takeOutgoing h.wiring] at he
  exact hl e (List.mem_of_mem_filter he) hloop

theorem attached_detach (h : n.Sound) (id : EdgeId) :
    (n.detach id).2.wiring.attached = n.wiring.attached.filter (·.id ≠ id) :=
  Wiring.attached_takeOutgoing h.wiring id

theorem incoming_detach (h : n.Sound) (id : EdgeId) :
    (n.detach id).2.incoming = n.incoming.filter (·.id ≠ id) :=
  Wiring.incoming_takeIncoming (sound_detachOutgoing h id).wiring id

theorem loopsBack_detach (h : n.Sound) (hl : n.LoopsBack) (id : EdgeId) : (n.detach id).2.LoopsBack := by
  intro e he hloop
  rw [attached_detach h, List.mem_filter] at he
  rw [incoming_detach h, List.mem_filter]
  exact ⟨hl e he.1 hloop, he.2⟩

theorem pollable_of_loop {e : Edge} (he : e ∈ n.incoming) (hloop : e.isSelfLoop = true)
    (full : Key Queue → Bool) : e ∈ n.pollable full := by
  rw [pollable]
  split
  · exact List.mem_filter.mpr ⟨he, hloop⟩
  · exact he

theorem restricted_of_full {full : Key Queue → Bool} (hany : n.heedsAny = false) {e : Edge}
    (he : e ∈ n.outgoing) (hfull : e.isFull full = true) : n.isRestricted full = true := by
  rw [isRestricted, hany, anyFull]
  exact List.any_eq_true.mpr ⟨e, he, hfull⟩

end Node

theorem mem_attached_linked (nodes : Store Node) (source destination n : Key Node) (e x : Edge) :
    x ∈ (linked nodes source destination e n).wiring.attached ↔
      x ∈ (nodes n).wiring.attached ∨ (n = source ∧ x = e) := by
  by_cases hn : n = source
  · have hadd := (Wiring.attached_addOutgoing (nodes n).wiring e).mem_iff (a := x)
    rw [List.mem_cons, or_comm] at hadd
    simpa only [linked, Wiring.attached, hn, ↓reduceIte, true_and] using hadd
  · simp [linked, Wiring.attached, hn]

def Action.LinksWithin (ns : Set (Key Node)) : Action → Prop
  | .addNode _ => False
  | .ask _ (.attachOutgoing _) => False
  | .ask _ (.attachIncoming _) => False
  | .connect source destination _ _ _ => source ∈ ns ∧ destination ∈ ns
  | _ => True

namespace Flow

variable {f : Flow} {ns : Set (Key Node)}

structure LoopsBack (f : Flow) (ns : Set (Key Node)) : Prop where
  sound : ∀ n ∈ ns, (f.nodes n).Sound
  ids : ns.InjOn (fun n => (f.nodes n).id)
  loops : ∀ n ∈ ns, (f.nodes n).LoopsBack

theorem loops_set (h : ∀ n ∈ ns, (f.nodes n).LoopsBack) {k : Key Node} {m : Node}
    (hm : k ∈ ns → m.LoopsBack) : ∀ n ∈ ns, (f.nodes.set k m n).LoopsBack :=
  Store.forall_set (P := fun n b => n ∈ ns → b.LoopsBack) hm (fun n _ => h n)

theorem loops_connect (h : f.LoopsBack ns) {source destination : Key Node} (hs : source ∈ ns)
    (hd : destination ∈ ns) (id : EdgeId) (r : Relationship) (q : Key Queue) :
    ∀ n ∈ ns, ((f.connect source destination id r q).2.nodes n).LoopsBack := by
  intro n hn
  rw [nodes_connect]
  rcases connect_cases (h.sound source hs) destination id r q with ⟨_, _, _, hfree⟩ | hrefused
  · rw [hfree]
    intro x hx hloop
    rw [incoming_linked, List.mem_append]
    rcases (mem_attached_linked f.nodes source destination n _ x).mp hx with hx | ⟨hns, hxe⟩
    · exact .inl (h.loops n hn x hx hloop)
    · -- the edge loops, so its two ends have one id and are one node
      right
      have hsame : source = destination := by
        apply h.ids hs hd
        rw [hxe] at hloop
        simpa [Edge.isSelfLoop, requested] using hloop
      rw [if_pos (hns.trans hsame), List.mem_singleton]
      exact hxe
  · rw [hrefused]
    exact h.loops n hn

theorem LoopsBack.evolves (h : f.LoopsBack ns) {g : Flow}
    (hg : ∀ n ∈ ns, (f.nodes n).Evolves (g.nodes n)) (hl : ∀ n ∈ ns, (g.nodes n).LoopsBack) :
    g.LoopsBack ns where
  sound n hn := (hg n hn).sound (h.sound n hn)
  ids := Set.InjOn.congr h.ids (fun n hn => (hg n hn).id_eq.symm)
  loops := hl

theorem LoopsBack.detach (h : f.LoopsBack ns) (k : Key Node) (id : EdgeId) : (f.detach k id).2.LoopsBack ns := by
  apply h.evolves
  · intro n _
    exact (Called.set f.nodes k (.detach id)).evolves n
  · exact loops_set h.loops (fun hk => Node.loopsBack_detach (h.sound k hk) (h.loops k hk) id)

theorem loops_disconnect (h : f.LoopsBack ns) (source destination : Key Node) (id : EdgeId) :
    ∀ n ∈ ns, ((f.disconnect source destination id).2.nodes n).LoopsBack := by
  rw [nodes_disconnect]
  exact ((h.detach source id).detach destination id).loops

theorem loops_act (h : f.LoopsBack ns) {a : Action} (ha : a.LinksWithin ns) :
    ∀ n ∈ ns, ((f.act a).nodes n).LoopsBack := by
  cases a with
  | addNode s => exact ha.elim
  | rename k name => exact loops_set h.loops (h.loops k)
  | setTriggersOnAny k value => exact loops_set h.loops (h.loops k)
  | ask k c =>
    rw [act, nodes_ask]
    cases c with
    | addRelationship r =>
      exact loops_set h.loops (fun hk => Node.loopsBack_addRelationship (h.loops k hk) r)
    | attachOutgoing e => exact ha.elim
    | attachIncoming e => exact ha.elim
    | detach id => exact (h.detach k id).loops
    | detachOutgoing id =>
      exact loops_set h.loops (fun hk => Node.loopsBack_detachOutgoing (h.sound k hk) (h.loops k hk) id)
  | connect source destination id r q => exact loops_connect h ha.1 ha.2 id r q
  | disconnect source destination id => exact loops_disconnect h source destination id
  | addQueue q => exact h.loops
  | setSwitch q full => exact h.loops
  | enqueue q size times =>
    rw [act, nodes_enqueue]
    exact h.loops
  | dequeue q size =>
    rw [act, nodes_dequeue]
    exact h.loops

theorem loopsBack_act (h : f.LoopsBack ns) {a : Action} (ha : a.LinksWithin ns) :
    (f.act a).LoopsBack ns := by
  apply h.evolves
  · intro n _
    rcases node_act f a n with ⟨s, rfl, _⟩ | hn
    · exact ha.elim
    · exact hn
  · exact loops_act h ha

theorem loopsBack_run (h : f.LoopsBack ns) {as : List Action} (has : ∀ a ∈ as, a.LinksWithin ns) :
    (f.run as).LoopsBack ns := by
  induction as generalizing f with
  | nil => exact h
  | cons a as ih =>
    rw [List.forall_mem_cons] at has
    exact ih (loopsBack_act h has.1) has.2

theorem loopsBack_of_new (hnew : ∀ n ∈ ns, ∃ s, f.nodes n = .ofSpec s)
    (hids : ns.InjOn (fun n => (f.nodes n).id)) : f.LoopsBack ns where
  ids := hids
  sound n hn := by
    obtain ⟨s, hs⟩ := hnew n hn
    rw [hs]
    exact Node.sound_ofSpec s
  loops n hn := by
    obtain ⟨s, hs⟩ := hnew n hn
    rw [hs]
    exact Node.loopsBack_ofSpec s

theorem self_loops_pollable (hnew : ∀ n ∈ ns, ∃ s, f.nodes n = .ofSpec s)
    (hids : ns.InjOn (fun n => (f.nodes n).id)) {as : List Action} (has : ∀ a ∈ as, a.LinksWithin ns)
    {n : Key Node} (hn : n ∈ ns) {e : Edge} (he : e ∈ ((f.run as).nodes n).outgoing)
    (hloop : e.isSelfLoop = true) :
    e ∈ ((f.run as).nodes n).incoming ∧
      (∀ w : Worker, w.node = n → e ∈ ((f.run as).poll w).1) ∧
      (∀ full value, e ∈ { (f.run as).nodes n with triggersOnAny := value }.pollable full) ∧
      ∀ full, ((f.run as).nodes n).heedsAny = false → e.isFull full = true →
        ((f.run as).nodes n).isRestricted full = true ∧ e ∈ ((f.run as).nodes n).pollable full := by
  have h := loopsBack_run (loopsBack_of_new hnew hids) has
  have hin : e ∈ ((f.run as).nodes n).incoming :=
    h.loops n hn e ((Wiring.mem_outgoing (h.sound n hn).wiring).mp he) hloop
  refine ⟨hin, ?_, ?_, ?_⟩
  · rintro w rfl
    exact Node.pollable_of_loop hin hloop (f.run as).isFull
  · intro full value
    exact Node.pollable_of_loop (n := { (f.run as).nodes n with triggersOnAny := value }) hin hloop full
  · intro full hany hfull
    exact ⟨Node.restricted_of_full hany he hfull, Node.pollable_of_loop hin hloop full⟩

def unlinked : Flow :=
  empty.run [
    .addNode { NodeSpec.blank with id := ⟨"p"⟩, relationships := [.named "retry", .named "done"] },
    .addNode { NodeSpec.blank with id := ⟨"q"⟩, relationships := [.named "done"] },
    .addQueue (.switch true)]

def clashes : List Action := [
  .connect ⟨0⟩ ⟨0⟩ ⟨"x"⟩ (.named "retry") ⟨2⟩,
  .connect ⟨1⟩ ⟨0⟩ ⟨"x"⟩ (.named "done") ⟨2⟩,
  .connect ⟨0⟩ ⟨1⟩ ⟨"x"⟩ (.named "done") ⟨2⟩,
  .connect ⟨1⟩ ⟨1⟩ ⟨"x"⟩ (.named "done") ⟨2⟩,
  .ask ⟨1⟩ (.detach ⟨"x"⟩)]

theorem unlinked_drains_loop :
    ((unlinked.run clashes).nodes ⟨0⟩).isRestricted (unlinked.run clashes).isFull = true ∧
      ⟨⟨"x"⟩, ⟨"p"⟩, ⟨"p"⟩, .named "retry", ⟨2⟩⟩ ∈
        ((unlinked.run clashes).poll ⟨⟨0⟩, ⟨0⟩, ⟨0⟩, ⟨0⟩, ⟨0⟩⟩).1 := by
  let ns : Set (Key Node) := {⟨0⟩, ⟨1⟩}
  have hnew : ∀ n ∈ ns, ∃ s, unlinked.nodes n = .ofSpec s := by
    rintro n (rfl | rfl)
    · exact ⟨_, rfl⟩
    · exact ⟨_, rfl⟩
  have hids : ns.InjOn (fun n => (unlinked.nodes n).id) := by
    rintro m (rfl | rfl) n (rfl | rfl) h
    · rfl
    · exact absurd h (by decide)
    · exact absurd h (by decide)
    · rfl
  have has : ∀ a ∈ clashes, a.LinksWithin ns := by
    have hp : (⟨0⟩ : Key Node) ∈ ns := .inl rfl
    have hq : (⟨1⟩ : Key Node) ∈ ns := .inr rfl
    simp [clashes, Action.LinksWithin, hp, hq]
  have hloop := self_loops_pollable hnew hids has (n := ⟨0⟩) (.inl rfl)
    (e := ⟨⟨"x"⟩, ⟨"p"⟩, ⟨"p"⟩, .named "retry", ⟨2⟩⟩) (by decide) (by decide)
  exact ⟨(hloop.2.2.2 _ (by decide) (by decide)).1, hloop.2.1 ⟨⟨0⟩, ⟨0⟩, ⟨0⟩, ⟨0⟩, ⟨0⟩⟩ rfl⟩

end Flow

end FlowAdmission
