import FlowAdmission.Proofs.SelfLoops
import Mathlib.Algebra.Order.BigOperators.Group.Finset

namespace FlowAdmission

inductive Side
  | outgoing
  | incoming

namespace Side

variable {n : Node} {e : Edge}

def held : Side → Node → List Edge
  | outgoing, n => n.wiring.attached
  | incoming, n => n.incoming

def node : Side → Edge → NodeId
  | outgoing, e => e.source
  | incoming, e => e.destination

def key (source destination : Key Node) : Side → Key Node
  | outgoing => source
  | incoming => destination

theorem nodup_held (h : n.Sound) (side : Side) : (side.held n).Nodup := by
  cases side with
  | outgoing => exact h.wiring.outgoingIds.of_map _
  | incoming => exact h.wiring.incomingIds.of_map _

theorem held_detach (h : n.Sound) (side : Side) (id : EdgeId) :
    side.held (n.detach id).2 = (side.held n).filter (·.id ≠ id) := by
  cases side with
  | outgoing => exact Node.attached_detach h id
  | incoming => exact Node.incoming_detach h id

theorem held_addRelationship (side : Side) (n : Node) (r : Relationship) :
    side.held (n.addRelationship r).2 = side.held n := by
  unfold Node.addRelationship
  split
  · rfl
  · cases side <;> rfl

theorem mem_held_linked (side : Side) (nodes : Store Node) (source destination n : Key Node) (e x : Edge) :
    x ∈ side.held (linked nodes source destination e n) ↔
      x ∈ side.held (nodes n) ∨ (n = side.key source destination ∧ x = e) := by
  cases side with
  | outgoing => exact mem_attached_linked nodes source destination n e x
  | incoming =>
    rw [held, incoming_linked, List.mem_append]
    apply or_congr_right
    by_cases hn : n = destination
    · simp [hn, key]
    · simp [hn, key]

end Side

namespace Node

variable {n : Node} {e : Edge}

def listed (n : Node) : List Edge :=
  n.outgoing ++ n.incoming

theorem mem_listed (h : n.Sound) : e ∈ n.listed ↔ ∃ side : Side, e ∈ side.held n := by
  rw [listed, List.mem_append, outgoing, Wiring.mem_outgoing h.wiring]
  constructor
  · rintro (he | he)
    · exact ⟨.outgoing, he⟩
    · exact ⟨.incoming, he⟩
  · rintro ⟨_ | _, he⟩
    · exact .inl he
    · exact .inr he

theorem count_edgesOf (h : n.Sound) (r : Relationship) (e : Edge) :
    (n.edgesOf r).count e = if e.relationship.name = r.name then n.wiring.attached.count e else 0 := by
  rw [edgesOf, Wiring.edgesOf_eq h.wiring]
  split
  · exact List.count_filter (by simpa)
  · rename_i hne
    rw [List.count_eq_zero, List.mem_filter]
    rintro ⟨_, hr⟩
    exact hne (by simpa using hr)

end Node

def Action.Spares (id : EdgeId) (a : Action) : Prop :=
  ∀ source destination, a ≠ .disconnect source destination id

namespace Flow

variable {f : Flow} {ns : Finset (Key Node)} {live : Finset Edge} {e : Edge} {a : Action}

def Joins (f : Flow) (m n : Key Node) (e : Edge) : Prop :=
  e.source = (f.nodes m).id ∧ e.destination = (f.nodes n).id ∨
    e.source = (f.nodes n).id ∧ e.destination = (f.nodes m).id

/-- Edges are attached only by connecting nodes of `ns` under an id that is free there, and an id is taken
off the two ends of its edge or, while no node of `ns` lists it, off any two nodes. -/
def Orderly (f : Flow) (ns : Finset (Key Node)) : Action → Prop
  | .addNode _ => False
  | .ask _ (.addRelationship _) => True
  | .ask _ _ => False
  | .connect source destination id _ _ =>
    source ∈ ns ∧ destination ∈ ns ∧ ∀ n ∈ ns, ∀ e ∈ (f.nodes n).listed, e.id ≠ id
  | .disconnect source destination id =>
    ∀ n ∈ ns, ∀ e ∈ (f.nodes n).listed, e.id = id →
      source ∈ ns ∧ destination ∈ ns ∧ f.Joins source destination e
  | _ => True

def OrderlyAll (f : Flow) (ns : Finset (Key Node)) : List Action → Prop
  | [] => True
  | a :: as => f.Orderly ns a ∧ (f.act a).OrderlyAll ns as

instance (f : Flow) (m n : Key Node) (e : Edge) : Decidable (f.Joins m n e) :=
  inferInstanceAs (Decidable (_ ∧ _ ∨ _ ∧ _))

instance (f : Flow) (ns : Finset (Key Node)) : (a : Action) → Decidable (f.Orderly ns a)
  | .addNode _ | .ask _ (.attachOutgoing _) | .ask _ (.attachIncoming _) | .ask _ (.detach _)
  | .ask _ (.detachOutgoing _) => inferInstanceAs (Decidable False)
  | .connect source destination id _ _ =>
    inferInstanceAs (Decidable (source ∈ ns ∧ destination ∈ ns ∧ ∀ n ∈ ns, ∀ e ∈ (f.nodes n).listed, e.id ≠ id))
  | .disconnect source destination id =>
    inferInstanceAs (Decidable (∀ n ∈ ns, ∀ e ∈ (f.nodes n).listed, e.id = id →
      source ∈ ns ∧ destination ∈ ns ∧ f.Joins source destination e))
  | .rename _ _ | .setTriggersOnAny _ _ | .ask _ (.addRelationship _) | .addQueue _ | .setSwitch _ _
  | .enqueue _ _ _ | .dequeue _ _ => inferInstanceAs (Decidable True)

instance decidableOrderlyAll (f : Flow) (ns : Finset (Key Node)) :
    (as : List Action) → Decidable (f.OrderlyAll ns as)
  | [] => inferInstanceAs (Decidable True)
  | a :: as =>
    have := decidableOrderlyAll (f.act a) ns as
    inferInstanceAs (Decidable (f.Orderly ns a ∧ (f.act a).OrderlyAll ns as))

def Makes (f : Flow) (e : Edge) : Action → Prop
  | .connect source destination id r q => (f.connect source destination id r q).1 = .ok e
  | _ => False

/-- The edge was the answer to a connect of the run, and its id was not disconnected since. -/
def Live (f : Flow) (as : List Action) (e : Edge) : Prop :=
  ∃ before a after, as = before ++ a :: after ∧ (f.run before).Makes e a ∧ ∀ b ∈ after, b.Spares e.id

theorem live_cons (f : Flow) (a : Action) (as : List Action) (e : Edge) :
    f.Live (a :: as) e ↔ (f.Makes e a ∧ ∀ b ∈ as, b.Spares e.id) ∨ (f.act a).Live as e := by
  constructor
  · rintro ⟨before, b, after, hsplit, hmakes, hafter⟩
    cases before with
    | nil =>
      cases hsplit
      exact .inl ⟨hmakes, hafter⟩
    | cons c before =>
      cases hsplit
      exact .inr ⟨before, b, after, rfl, hmakes, hafter⟩
  · rintro (⟨hmakes, hafter⟩ | ⟨before, b, after, rfl, hmakes, hafter⟩)
    · exact ⟨[], a, as, rfl, hmakes, hafter⟩
    · exact ⟨a :: before, b, after, rfl, hmakes, hafter⟩

def liveAfter (f : Flow) (live : Finset Edge) : Action → Finset Edge
  | .connect source destination id r q =>
    match (f.connect source destination id r q).1 with
    | .ok e => insert e live
    | .error _ => live
  | .disconnect _ _ id => live.filter (·.id ≠ id)
  | _ => live

theorem mem_liveAfter (f : Flow) (live : Finset Edge) (a : Action) (e : Edge) :
    e ∈ f.liveAfter live a ↔ e ∈ live ∧ a.Spares e.id ∨ f.Makes e a := by
  cases a with
  | connect source destination id r q =>
    cases h : (f.connect source destination id r q).1 with
    | ok c => simp [liveAfter, Action.Spares, Makes, h, or_comm, eq_comm]
    | error why => simp [liveAfter, Action.Spares, Makes, h]
  | disconnect source destination id => simp [liveAfter, Action.Spares, Makes, eq_comm]
  | _ => simp [liveAfter, Action.Spares, Makes]

def liveRun (f : Flow) (live : Finset Edge) : List Action → Finset Edge
  | [] => live
  | a :: as => (f.act a).liveRun (f.liveAfter live a) as

theorem mem_liveRun (f : Flow) (live : Finset Edge) (as : List Action) (e : Edge) :
    e ∈ f.liveRun live as ↔ e ∈ live ∧ (∀ a ∈ as, a.Spares e.id) ∨ f.Live as e := by
  induction as generalizing f live with
  | nil => simp [liveRun, Live]
  | cons a as ih =>
    rw [liveRun, ih, mem_liveAfter, live_cons, List.forall_mem_cons]
    tauto

structure Agrees (f : Flow) (ns : Finset (Key Node)) (live : Finset Edge) : Prop where
  sound : ∀ n ∈ ns, (f.nodes n).Sound
  ids : Set.InjOn (fun n => (f.nodes n).id) ns
  distinct : Set.InjOn Edge.id live
  ends : ∀ side : Side, ∀ e ∈ live, ∃ n ∈ ns, side.node e = (f.nodes n).id
  held : ∀ side : Side, ∀ n ∈ ns, ∀ e, e ∈ side.held (f.nodes n) ↔ e ∈ live ∧ side.node e = (f.nodes n).id

namespace Agrees

theorem mem_live (h : f.Agrees ns live) : e ∈ live ↔ ∃ n ∈ ns, e ∈ (f.nodes n).listed := by
  constructor
  · intro he
    obtain ⟨n, hn, hid⟩ := h.ends .outgoing e he
    exact ⟨n, hn, (Node.mem_listed (h.sound n hn)).mpr ⟨.outgoing, (h.held .outgoing n hn e).mpr ⟨he, hid⟩⟩⟩
  · rintro ⟨n, hn, he⟩
    obtain ⟨side, hside⟩ := (Node.mem_listed (h.sound n hn)).mp he
    exact ((h.held side n hn e).mp hside).1

theorem evolves (h : f.Agrees ns live) {g : Flow} {after : Finset Edge}
    (hg : ∀ n ∈ ns, (f.nodes n).Evolves (g.nodes n)) (hdistinct : Set.InjOn Edge.id after)
    (hends : ∀ side : Side, ∀ e ∈ after, ∃ n ∈ ns, side.node e = (f.nodes n).id)
    (hheld : ∀ side : Side, ∀ n ∈ ns, ∀ e,
      e ∈ side.held (g.nodes n) ↔ e ∈ after ∧ side.node e = (f.nodes n).id) : g.Agrees ns after where
  sound n hn := (hg n hn).sound (h.sound n hn)
  ids := Set.InjOn.congr h.ids (fun n hn => (hg n hn).id_eq.symm)
  distinct := hdistinct
  ends side e he := by
    obtain ⟨n, hn, hid⟩ := hends side e he
    exact ⟨n, hn, hid.trans (hg n hn).id_eq.symm⟩
  held side n hn e := by rw [hheld side n hn, (hg n hn).id_eq]

theorem keeps (h : f.Agrees ns live) {g : Flow} (hg : ∀ n ∈ ns, (f.nodes n).Evolves (g.nodes n))
    (hsame : ∀ n ∈ ns, ∀ side : Side, side.held (g.nodes n) = side.held (f.nodes n)) : g.Agrees ns live := by
  apply h.evolves hg h.distinct h.ends
  intro side n hn e
  rw [hsame n hn, h.held side n hn]

end Agrees

theorem evolves_act (ha : ∀ s, a ≠ .addNode s) (f : Flow) (n : Key Node) :
    (f.nodes n).Evolves ((f.act a).nodes n) := by
  rcases node_act f a n with ⟨s, rfl, _⟩ | hevolves
  · exact absurd rfl (ha s)
  · exact hevolves

theorem agrees_connect (h : f.Agrees ns live) {source destination : Key Node} (hs : source ∈ ns)
    (hd : destination ∈ ns) {id : EdgeId} (hid : ∀ n ∈ ns, ∀ e ∈ (f.nodes n).listed, e.id ≠ id)
    (r : Relationship) (q : Key Queue) :
    (f.act (.connect source destination id r q)).Agrees ns
      (f.liveAfter live (.connect source destination id r q)) := by
  have hevolves (n : Key Node) (_ : n ∈ ns) :=
    evolves_act (a := .connect source destination id r q) (fun _ => by simp) f n
  have hnodes : (f.act (.connect source destination id r q)).nodes =
      (FlowAdmission.connect f.nodes source destination id r q).2 := nodes_connect f source destination id r q
  rw [liveAfter, fst_connect]
  rcases connect_cases (h.sound source hs) destination id r q with ⟨_, _, _, hfree⟩ | hrefused
  · rw [hfree] at hnodes ⊢
    dsimp only at hnodes ⊢
    generalize hreq : requested f.nodes source destination id r q = e at *
    have hfresh : ∀ x ∈ live, x.id ≠ e.id := by
      intro x hx
      obtain ⟨n, hn, hlisted⟩ := h.mem_live.mp hx
      rw [← hreq]
      exact hid n hn x hlisted
    have hkey (side : Side) : side.key source destination ∈ ns ∧
        side.node e = (f.nodes (side.key source destination)).id := by
      rw [← hreq]
      cases side with
      | outgoing => exact ⟨hs, rfl⟩
      | incoming => exact ⟨hd, rfl⟩
    apply h.evolves hevolves
    · rw [Finset.coe_insert, Set.injOn_insert (fun hm => hfresh e hm rfl)]
      refine ⟨h.distinct, ?_⟩
      rintro ⟨x, hx, hxid⟩
      exact hfresh x hx hxid
    · intro side x hx
      rcases Finset.mem_insert.mp hx with rfl | hx
      · exact ⟨_, hkey side⟩
      · exact h.ends side x hx
    · intro side n hn x
      rw [hnodes, Side.mem_held_linked, h.held side n hn, Finset.mem_insert]
      constructor
      · rintro (⟨hx, hxn⟩ | ⟨rfl, rfl⟩)
        · exact ⟨.inr hx, hxn⟩
        · exact ⟨.inl rfl, (hkey side).2⟩
      · rintro ⟨rfl | hx, hxn⟩
        · exact .inr ⟨h.ids hn (hkey side).1 (hxn.symm.trans (hkey side).2), rfl⟩
        · exact .inl ⟨hx, hxn⟩
  · rw [hrefused] at hnodes ⊢
    apply h.keeps hevolves
    intro n _ side
    rw [hnodes]

theorem mem_held_detach {n : Key Node} (h : (f.nodes n).Sound) (side : Side) (k : Key Node) (id : EdgeId)
    (e : Edge) : e ∈ side.held ((f.detach k id).2.nodes n) ↔
      e ∈ side.held (f.nodes n) ∧ (n = k → e.id ≠ id) := by
  by_cases hn : n = k
  · subst hn
    rw [show (f.detach n id).2.nodes n = ((f.nodes n).detach id).2 from Store.set_same _ _ _,
      Side.held_detach h, List.mem_filter]
    simp
  · rw [show (f.detach k id).2.nodes n = f.nodes n from Store.set_other _ _ hn]
    simp [hn]

theorem Agrees.end_of_disconnected (h : f.Agrees ns live) {source destination n : Key Node} {id : EdgeId}
    (ha : f.Orderly ns (.disconnect source destination id)) (hn : n ∈ ns) (he : e ∈ live) (hid : e.id = id)
    {side : Side} (hend : side.node e = (f.nodes n).id) : n = source ∨ n = destination := by
  obtain ⟨m, hm, hlisted⟩ := h.mem_live.mp he
  obtain ⟨hs, hd, hjoins⟩ := ha m hm e hlisted hid
  -- the two disconnected nodes are the ends of the edge, in one order or the other
  have hkey : side.node e = (f.nodes source).id ∨ side.node e = (f.nodes destination).id := by
    cases side with
    | outgoing => exact hjoins.imp And.left And.left
    | incoming => exact (hjoins.imp And.right And.right).symm
  rcases hkey with hkey | hkey
  · exact .inl (h.ids hn hs (hend.symm.trans hkey))
  · exact .inr (h.ids hn hd (hend.symm.trans hkey))

theorem agrees_disconnect (h : f.Agrees ns live) {source destination : Key Node} {id : EdgeId}
    (ha : f.Orderly ns (.disconnect source destination id)) :
    (f.act (.disconnect source destination id)).Agrees ns (live.filter (·.id ≠ id)) := by
  have hevolves (n : Key Node) (_ : n ∈ ns) :=
    evolves_act (a := .disconnect source destination id) (fun _ => by simp) f n
  have hnodes : (f.act (.disconnect source destination id)).nodes =
      ((f.detach source id).2.detach destination id).2.nodes := nodes_disconnect f source destination id
  apply h.evolves hevolves
  · apply h.distinct.mono
    intro x hx
    exact (Finset.mem_filter.mp hx).1
  · intro side x hx
    exact h.ends side x (Finset.mem_filter.mp hx).1
  · intro side n hn x
    have hdetached : ((f.detach source id).2.nodes n).Sound :=
      ((Called.set f.nodes source (.detach id)).evolves n).sound (h.sound n hn)
    rw [hnodes, mem_held_detach hdetached, mem_held_detach (h.sound n hn), h.held side n hn, Finset.mem_filter]
    constructor
    · rintro ⟨⟨⟨hx, hxn⟩, hs⟩, hd⟩
      refine ⟨⟨hx, ?_⟩, hxn⟩
      intro hid
      rcases h.end_of_disconnected ha hn hx hid hxn with hns | hnd
      · exact hs hns hid
      · exact hd hnd hid
    · rintro ⟨⟨hx, hne⟩, hxn⟩
      exact ⟨⟨⟨hx, hxn⟩, fun _ => hne⟩, fun _ => hne⟩

theorem held_set (f : Flow) {k : Key Node} {m : Node} (hm : ∀ side : Side, side.held m = side.held (f.nodes k))
    (n : Key Node) (side : Side) : side.held (f.nodes.set k m n) = side.held (f.nodes n) :=
  Store.forall_set (P := fun j b => side.held b = side.held (f.nodes j)) (hm side) (fun _ _ => rfl) n

theorem agrees_act (h : f.Agrees ns live) (ha : f.Orderly ns a) :
    (f.act a).Agrees ns (f.liveAfter live a) := by
  have hkeep (hnew : ∀ s, a ≠ .addNode s)
      (hsame : ∀ n (side : Side), side.held ((f.act a).nodes n) = side.held (f.nodes n)) :
      (f.act a).Agrees ns live := by
    apply h.keeps
    · intro n _
      exact evolves_act hnew f n
    · intro n _
      exact hsame n
  cases a with
  | addNode s => exact ha.elim
  | rename k name => exact hkeep (fun _ => by simp) (held_set f (fun side => by cases side <;> rfl))
  | setTriggersOnAny k value => exact hkeep (fun _ => by simp) (held_set f (fun side => by cases side <;> rfl))
  | ask k c =>
    cases c with
    | addRelationship r =>
      apply hkeep (fun _ => by simp)
      exact held_set f (fun side => side.held_addRelationship (f.nodes k) r)
    | attachOutgoing e => exact ha.elim
    | attachIncoming e => exact ha.elim
    | detach id => exact ha.elim
    | detachOutgoing id => exact ha.elim
  | connect source destination id r q => exact agrees_connect h ha.1 ha.2.1 ha.2.2 r q
  | disconnect source destination id => exact agrees_disconnect h ha
  | addQueue q => exact hkeep (fun _ => by simp) (fun _ _ => rfl)
  | setSwitch q full => exact hkeep (fun _ => by simp) (fun _ _ => rfl)
  | enqueue q size times =>
    apply hkeep (fun _ => by simp)
    intro n side
    rw [act, nodes_enqueue]
  | dequeue q size =>
    apply hkeep (fun _ => by simp)
    intro n side
    rw [act, nodes_dequeue]

theorem agrees_run (h : f.Agrees ns live) {as : List Action} (has : f.OrderlyAll ns as) :
    (f.run as).Agrees ns (f.liveRun live as) := by
  induction as generalizing f live with
  | nil => exact h
  | cons a as ih => exact ih (agrees_act h has.1) has.2

theorem agrees_of_bare (hsound : ∀ n ∈ ns, (f.nodes n).Sound) (hids : Set.InjOn (fun n => (f.nodes n).id) ns)
    (hbare : ∀ n ∈ ns, (f.nodes n).listed = []) : f.Agrees ns ∅ where
  sound := hsound
  ids := hids
  distinct := by simp
  ends := by simp
  held side n hn e := by
    have hnone : e ∉ side.held (f.nodes n) := by
      intro he
      have hlisted := (Node.mem_listed (hsound n hn)).mpr ⟨side, he⟩
      rw [hbare n hn] at hlisted
      cases hlisted
    simp [hnone]

namespace Agrees

theorem count_held (h : f.Agrees ns live) (he : e ∈ live) (side : Side) :
    ∃ k ∈ ns, side.node e = (f.nodes k).id ∧
      ∀ n ∈ ns, (side.held (f.nodes n)).count e = if n = k then 1 else 0 := by
  obtain ⟨k, hk, hid⟩ := h.ends side e he
  refine ⟨k, hk, hid, ?_⟩
  intro n hn
  have hend : e ∈ side.held (f.nodes n) ↔ n = k := by
    rw [h.held side n hn, hid]
    constructor
    · rintro ⟨_, hsame⟩
      exact h.ids hn hk hsame.symm
    · rintro rfl
      exact ⟨he, rfl⟩
  rw [(side.nodup_held (h.sound n hn)).count, if_congr hend rfl rfl]

theorem sum_held (h : f.Agrees ns live) (side : Side) :
    ∑ n ∈ ns, (side.held (f.nodes n)).length = live.card := by
  have hmaps : ∀ e ∈ live, side.node e ∈ ns.image (fun n => (f.nodes n).id) := by
    intro e he
    obtain ⟨n, hn, hid⟩ := h.ends side e he
    exact Finset.mem_image.mpr ⟨n, hn, hid.symm⟩
  -- the live edges, sorted by the node at this end
  rw [Finset.card_eq_sum_card_fiberwise hmaps, Finset.sum_image h.ids]
  apply Finset.sum_congr rfl
  intro n hn
  rw [← List.toFinset_card_of_nodup (side.nodup_held (h.sound n hn))]
  congr 1
  ext e
  rw [List.mem_toFinset, h.held side n hn, Finset.mem_filter]

theorem count_outgoing (h : f.Agrees ns live) {n : Key Node} (hn : n ∈ ns) (e : Edge) :
    (f.nodes n).outgoing.count e = (Side.outgoing.held (f.nodes n)).count e :=
  (Wiring.outgoing_perm (h.sound n hn).wiring).count_eq e

theorem sum_outgoing (h : f.Agrees ns live) : ∑ n ∈ ns, (f.nodes n).outgoing.length = live.card := by
  rw [← h.sum_held .outgoing]
  apply Finset.sum_congr rfl
  intro n hn
  exact (Wiring.outgoing_perm (h.sound n hn).wiring).length_eq

end Agrees

theorem both_ends_agree (hf : f.Reachable) (hids : Set.InjOn (fun n => (f.nodes n).id) ns)
    (hbare : ∀ n ∈ ns, (f.nodes n).listed = []) {as : List Action} (has : f.OrderlyAll ns as) :
    (∀ e, f.Live as e ↔ ∃ n ∈ ns, e ∈ ((f.run as).nodes n).listed) ∧
      (∀ e, f.Live as e → ∃ s ∈ ns, ∃ d ∈ ns,
        e.source = ((f.run as).nodes s).id ∧ e.destination = ((f.run as).nodes d).id ∧
          ∀ n ∈ ns, ((f.run as).nodes n).outgoing.count e = (if n = s then 1 else 0) ∧
            ((f.run as).nodes n).incoming.count e = (if n = d then 1 else 0) ∧
            ∀ r, (((f.run as).nodes n).edgesOf r).count e =
              if n = s ∧ r.name = e.relationship.name then 1 else 0) ∧
      ∑ n ∈ ns, ((f.run as).nodes n).outgoing.length = ∑ n ∈ ns, ((f.run as).nodes n).incoming.length := by
  have h := agrees_run (agrees_of_bare (fun n _ => hf.sound n) hids hbare) has
  have hlive (e : Edge) : f.Live as e ↔ e ∈ f.liveRun ∅ as := by
    rw [mem_liveRun]
    simp
  refine ⟨?_, ?_, ?_⟩
  · intro e
    rw [hlive, h.mem_live]
  · intro e he
    rw [hlive] at he
    obtain ⟨s, hs, hsid, hout⟩ := h.count_held he .outgoing
    obtain ⟨d, hd, hdid, hin⟩ := h.count_held he .incoming
    refine ⟨s, hs, d, hd, hsid, hdid, ?_⟩
    intro n hn
    refine ⟨(h.count_outgoing hn e).trans (hout n hn), hin n hn, ?_⟩
    intro r
    have hattached : ((f.run as).nodes n).wiring.attached.count e = if n = s then 1 else 0 := hout n hn
    rw [Node.count_edgesOf (h.sound n hn), hattached, ← ite_and, if_congr and_comm rfl rfl,
      if_congr (and_congr_right fun _ => eq_comm) rfl rfl]
  · exact h.sum_outgoing.trans (h.sum_held .incoming).symm

def rewiring : List Action := [
  .connect ⟨0⟩ ⟨0⟩ ⟨"x"⟩ (.named "retry") ⟨2⟩,
  .connect ⟨0⟩ ⟨1⟩ ⟨"y"⟩ (.named "done") ⟨2⟩,
  .connect ⟨1⟩ ⟨0⟩ ⟨"z"⟩ (.named "retry") ⟨2⟩,
  .ask ⟨1⟩ (.addRelationship (.named "retry")),
  .connect ⟨1⟩ ⟨0⟩ ⟨"z"⟩ (.named "retry") ⟨2⟩,
  .rename ⟨0⟩ "P",
  .disconnect ⟨1⟩ ⟨0⟩ ⟨"y"⟩,
  .disconnect ⟨0⟩ ⟨1⟩ ⟨"w"⟩,
  .connect ⟨1⟩ ⟨0⟩ ⟨"y"⟩ (.named "done") ⟨2⟩]

theorem rewiring_leaves_three :
    let ends : Finset (Key Node) := {⟨0⟩, ⟨1⟩}
    unlinked.Live rewiring ⟨⟨"x"⟩, ⟨"p"⟩, ⟨"p"⟩, .named "retry", ⟨2⟩⟩ ∧
      unlinked.Live rewiring ⟨⟨"y"⟩, ⟨"q"⟩, ⟨"p"⟩, .named "done", ⟨2⟩⟩ ∧
      ¬ unlinked.Live rewiring ⟨⟨"y"⟩, ⟨"p"⟩, ⟨"q"⟩, .named "done", ⟨2⟩⟩ ∧
      ∑ n ∈ ends, ((unlinked.run rewiring).nodes n).outgoing.length = 3 ∧
      ∑ n ∈ ends, ((unlinked.run rewiring).nodes n).incoming.length = 3 := by
  intro ends
  have hnew : unlinked.Reachable := ⟨empty, _, isNew_empty, rfl⟩
  have hids : ∀ m ∈ ends, ∀ n ∈ ends, (unlinked.nodes m).id = (unlinked.nodes n).id → m = n := by decide
  have hbare : ∀ n ∈ ends, (unlinked.nodes n).listed = [] := by decide
  have has : unlinked.OrderlyAll ends rewiring := by decide
  have hall := both_ends_agree hnew (fun m hm n hn h => hids m hm n hn h) hbare has
  have hthree : ∑ n ∈ ends, ((unlinked.run rewiring).nodes n).outgoing.length = 3 := by decide
  refine ⟨?_, ?_, ?_, hthree, ?_⟩
  · exact (hall.1 _).mpr (by decide)
  · exact (hall.1 _).mpr (by decide)
  · rw [hall.1]
    decide
  · rw [← hall.2.2, hthree]

end Flow

end FlowAdmission
