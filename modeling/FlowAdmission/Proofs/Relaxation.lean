import FlowAdmission.Proofs.Restriction
import Mathlib.Logic.Relation

namespace FlowAdmission

namespace Backlog

theorem reached_mono {bound amount more : UInt64} (h : amount ≤ more)
    (hr : Thresholds.reached bound amount = true) : Thresholds.reached bound more = true := by
  simp only [Thresholds.reached, Bool.and_eq_true, decide_eq_true_eq] at hr ⊢
  exact ⟨hr.1, UInt64.le_trans hr.2 h⟩

theorem dequeue_le (b : Backlog) (size : UInt64) :
    (b.dequeue size).2.objects ≤ b.objects ∧ (b.dequeue size).2.bytes ≤ b.bytes := by
  rw [dequeue]
  split
  · exact ⟨UInt64.le_refl _, UInt64.le_refl _⟩
  · rename_i hempty
    -- the number is not zero before one is taken, and the bytes stop at zero, so neither wraps
    have hsome : b.objects ≠ 0 := by simpa [isEmpty] using hempty
    have hone : 1 ≤ b.objects := by
      rw [UInt64.le_iff_toNat_le, UInt64.toNat_one, Nat.one_le_iff_ne_zero]
      exact fun hzero => hsome (UInt64.toNat_inj.mp hzero)
    constructor
    · exact UInt64.sub_le hone
    · dsimp only
      split
      · rename_i hsize
        exact UInt64.sub_le hsize
      · exact UInt64.zero_le

theorem isFull_of_dequeue {b : Backlog} {size : UInt64} (h : (b.dequeue size).2.isFull = true) :
    b.isFull = true := by
  obtain ⟨hobjects, hbytes⟩ := dequeue_le b size
  have hthresholds : (b.dequeue size).2.thresholds = b.thresholds := by
    rw [dequeue]
    split <;> rfl
  rw [isFull, Bool.or_eq_true, hthresholds] at h
  rw [isFull, Bool.or_eq_true]
  exact h.imp (reached_mono hobjects) (reached_mono hbytes)

end Backlog

namespace Node

variable {n m k : Node} {full full' full'' : Key Queue → Bool}

/-- The second node, with the second view of the queues, has no more edges and no more full queues than
the first; what it declares in addition has no edges. -/
structure Relieved (full full' : Key Queue → Bool) (n m : Node) : Prop where
  declared : ∃ rs, m.relationships = n.relationships ++ rs ∧ ∀ r ∈ rs, m.edgesOf r = []
  edges : ∀ r, m.edgesOf r ⊆ n.edgesOf r
  queues : ∀ q, full' q = true → full q = true
  heeds : n.heedsAny = true → m.heedsAny = true

namespace Relieved

theorem of_queues (n : Node) (h : ∀ q, full' q = true → full q = true) : Relieved full full' n n where
  declared := ⟨[], (List.append_nil _).symm, by simp⟩
  edges _ := List.Subset.refl _
  queues := h
  heeds h := h

theorem refl (full : Key Queue → Bool) (n : Node) : Relieved full full n n :=
  of_queues n (fun _ h => h)

theorem trans (h : Relieved full full' n m) (g : Relieved full' full'' m k) :
    Relieved full full'' n k where
  declared := by
    obtain ⟨rs, hrs, hempty⟩ := h.declared
    obtain ⟨ss, hss, hempty'⟩ := g.declared
    refine ⟨rs ++ ss, by rw [hss, hrs, List.append_assoc], ?_⟩
    intro r hr
    rcases List.mem_append.mp hr with hr | hr
    · apply List.eq_nil_of_subset_nil
      rw [← hempty r hr]
      exact g.edges r
    · exact hempty' r hr
  edges r := List.Subset.trans (g.edges r) (h.edges r)
  queues q hq := h.queues q (g.queues q hq)
  heeds hn := g.heeds (h.heeds hn)

theorem isOpen (h : Relieved full full' n m) {r : Relationship} (hr : n.isOpen full r = true) :
    m.isOpen full' r = true := by
  rw [isOpen_iff] at hr ⊢
  intro e he
  have hn := hr e (h.edges r he)
  rw [Edge.isAvailable_iff] at hn ⊢
  refine hn.imp_right ?_
  intro hfree
  rw [← Bool.not_eq_true]
  intro hfull
  exact Bool.noConfusion (hfree.symm.trans (h.queues e.queue hfull))

theorem closed_le (h : Relieved full full' n m) : m.closed full' ≤ n.closed full := by
  obtain ⟨rs, hrs, hempty⟩ := h.declared
  have hnone : Scan.unavailable (m.isOpen full') rs = 0 := by
    rw [Scan.unavailable_eq_zero]
    intro r hr
    rw [Node.isOpen, hempty r hr, List.all_nil]
  have hkept : Scan.unavailable (m.isOpen full') n.relationships ≤
      Scan.unavailable (n.isOpen full) n.relationships := by
    apply List.countP_mono_left
    intro r _ hr
    rw [Bool.not_eq_true'] at hr ⊢
    rw [← Bool.not_eq_true]
    intro hopen
    exact Bool.noConfusion (hr.symm.trans (h.isOpen hopen))
  have happend : m.closed full' =
      Scan.unavailable (m.isOpen full') n.relationships + Scan.unavailable (m.isOpen full') rs := by
    rw [closed, hrs]
    exact List.countP_append
  rw [happend, hnone]
  exact hkept

theorem satisfied (h : Relieved full full' n m) {required : Nat}
    (hn : (n.satisfied full required).answer = true) : (m.satisfied full' required).answer = true := by
  obtain ⟨rs, hrs, _⟩ := h.declared
  have hclosed := h.closed_le
  have hlength : m.relationships.length = n.relationships.length + rs.length := by
    rw [hrs, List.length_append]
  rw [satisfied_iff_closed] at hn ⊢
  omega

theorem anyFull (h : Relieved full full' n m) (hm : m.anyFull full' = true) : n.anyFull full = true := by
  obtain ⟨rs, hrs, hempty⟩ := h.declared
  obtain ⟨e, he, hfull⟩ := anyFull_iff.mp hm
  obtain ⟨r, hr, her⟩ := mem_outgoing.mp he
  rw [hrs, List.mem_append] at hr
  rcases hr with hr | hr
  · exact anyFull_iff.mpr ⟨e, mem_outgoing.mpr ⟨r, hr, h.edges r her⟩, h.queues e.queue hfull⟩
  · rw [hempty r hr] at her
    exact absurd her List.not_mem_nil

theorem unrestricted (h : Relieved full full' n m) (hn : n.isRestricted full = false) :
    m.isRestricted full' = false := by
  rw [← Bool.not_eq_true]
  cases hany : m.heedsAny with
  | true =>
    -- a node that heeds the flag asks for one relationship, which an unrestricted one has in either mode
    rw [isRestricted_any hany, Bool.not_eq_false]
    exact h.satisfied (satisfied_of_unrestricted hn)
  | false =>
    have hboth : n.heedsAny = false := by
      rw [← Bool.not_eq_true]
      intro hheeds
      exact Bool.noConfusion (hany.symm.trans (h.heeds hheeds))
    rw [isRestricted_all hany]
    intro hfull
    rw [← Bool.not_eq_true, isRestricted_all hboth] at hn
    exact hn (h.anyFull hfull)

end Relieved

theorem relieved_detachOutgoing (h : n.Sound) (id : EdgeId) :
    Relieved full full n (n.detachOutgoing id).2 where
  declared := ⟨[], (List.append_nil _).symm, by simp⟩
  edges r := by
    have hedges : (n.detachOutgoing id).2.edgesOf r = (n.edgesOf r).filter (·.id ≠ id) :=
      Wiring.edgesOf_takeOutgoing h.wiring id r.name
    rw [hedges]
    exact List.filter_sublist.subset
  queues _ h := h
  heeds h := h

theorem relieved_detach (h : n.Sound) (id : EdgeId) : Relieved full full n (n.detach id).2 := by
  -- the incoming side plays no part in admission
  have hout : Relieved full full n (n.detachOutgoing id).2 := relieved_detachOutgoing h id
  obtain ⟨hdeclared, hedges, hqueues, hheeds⟩ := hout
  exact ⟨hdeclared, hedges, hqueues, hheeds⟩

theorem edgesOf_undeclared (h : n.Sound) {r : Relationship} (hr : n.wiring.declares r.name = false) :
    n.edgesOf r = [] := by
  apply List.eq_nil_iff_forall_not_mem.mpr
  intro e he
  obtain ⟨hattached, hname⟩ := (Wiring.mem_edgesOf h.wiring).mp he
  have hdeclared := Wiring.mem_attached_declared h.wiring hattached
  rw [hname, hr] at hdeclared
  exact Bool.noConfusion hdeclared

theorem relieved_addRelationship (h : n.Sound) (r : Relationship) :
    Relieved full full n (n.addRelationship r).2 := by
  rw [addRelationship]
  split
  · exact .refl full n
  · rename_i hr
    refine ⟨⟨[r], rfl, ?_⟩, fun _ => List.Subset.refl _, fun _ h => h, fun h => h⟩
    intro s hs
    rw [List.mem_singleton.mp hs]
    exact edgesOf_undeclared h (by simpa using hr)

theorem relieved_triggersOnAny (n : Node) : Relieved full full n { n with triggersOnAny := true } where
  declared := ⟨[], (List.append_nil _).symm, by simp⟩
  edges _ := List.Subset.refl _
  queues _ h := h
  heeds hn := by
    rw [heedsAny_iff] at hn ⊢
    exact ⟨hn.1, rfl⟩

end Node

namespace Flow

variable {f g : Flow}

inductive Relaxes : Flow → Flow → Prop
  | dequeue (f : Flow) (q : Key Queue) (size : UInt64) : Relaxes f (f.dequeue q size).2
  | drain (f : Flow) (queues : Store Queue) (h : ∀ q, (queues q).isFull = true → f.isFull q = true) :
    Relaxes f { f with queues }
  | detach (f : Flow) (n : Key Node) (id : EdgeId) : Relaxes f (f.detach n id).2
  | detachOutgoing (f : Flow) (n : Key Node) (id : EdgeId) : Relaxes f (f.detachOutgoing n id).2
  | disconnect (f : Flow) (source destination : Key Node) (id : EdgeId) :
    Relaxes f (f.disconnect source destination id).2
  | addRelationship (f : Flow) (n : Key Node) (r : Relationship) : Relaxes f (f.addRelationship n r).2
  | setTriggersOnAny (f : Flow) (n : Key Node) : Relaxes f (f.setTriggersOnAny n true)

structure Relieved (f g : Flow) : Prop where
  nodes : ∀ n, (f.nodes n).Relieved f.isFull g.isFull (g.nodes n)
  sound : ∀ n, (g.nodes n).Sound

theorem Relieved.trans {h : Flow} (hfg : f.Relieved g) (hgh : g.Relieved h) : f.Relieved h where
  nodes n := (hfg.nodes n).trans (hgh.nodes n)
  sound := hgh.sound

theorem queues_dequeue (f : Flow) (q : Key Queue) (size : UInt64) (k : Key Queue)
    (h : (f.dequeue q size).2.isFull k = true) : f.isFull k = true := by
  cases hq : f.queues q with
  | switch full => simpa [dequeue, hq] using h
  | backlog b =>
    have hset : (f.dequeue q size).2.queues = f.queues.set q (.backlog (b.dequeue size).2) := by
      rw [dequeue, hq]
    by_cases hk : k = q
    · subst hk
      rw [isFull, hset, Store.set_same] at h
      rw [isFull, hq]
      exact Backlog.isFull_of_dequeue h
    · rwa [isFull, hset, Store.set_other _ _ hk] at h

theorem queues_disconnect (f : Flow) (source destination : Key Node) (id : EdgeId) :
    (f.disconnect source destination id).2.queues = f.queues := by
  rw [disconnect_noted]

theorem Relieved.congr {h : Flow} (hfg : f.Relieved g) (hnodes : h.nodes = g.nodes)
    (hqueues : h.queues = g.queues) : f.Relieved h := by
  have hfull : h.isFull = g.isFull := by
    funext q
    rw [isFull, isFull, hqueues]
  constructor
  · intro n
    rw [hfull, hnodes]
    exact hfg.nodes n
  · rw [hnodes]
    exact hfg.sound

theorem relieved_set (hf : ∀ n, (f.nodes n).Sound) {k : Key Node} {m : Node}
    (hm : (f.nodes k).Relieved f.isFull f.isFull m) (hsound : m.Sound) :
    f.Relieved { f with nodes := f.nodes.set k m } where
  nodes := Store.forall_set (P := fun n m => (f.nodes n).Relieved f.isFull f.isFull m) hm
    (fun n _ => .refl f.isFull (f.nodes n))
  sound := Store.forall_set (P := fun _ m => m.Sound) hsound (fun n _ => hf n)

theorem relieved_detach (hf : ∀ n, (f.nodes n).Sound) (n : Key Node) (id : EdgeId) :
    f.Relieved (f.detach n id).2 :=
  relieved_set hf (Node.relieved_detach (hf n) id) (Node.sound_detach (hf n) id)

theorem Relaxes.relieved (h : f.Relaxes g) (hf : ∀ n, (f.nodes n).Sound) : f.Relieved g := by
  cases h with
  | dequeue q size =>
    constructor
    · intro n
      rw [nodes_dequeue]
      exact .of_queues (f.nodes n) (queues_dequeue f q size)
    · rw [nodes_dequeue]
      exact hf
  | drain queues h => exact ⟨fun n => .of_queues (f.nodes n) h, hf⟩
  | detach n id => exact relieved_detach hf n id
  | detachOutgoing n id =>
    exact relieved_set hf (Node.relieved_detachOutgoing (hf n) id) (Node.sound_detachOutgoing (hf n) id)
  | disconnect source destination id =>
    have hfirst := relieved_detach hf source id
    have hboth := hfirst.trans (relieved_detach hfirst.sound destination id)
    exact hboth.congr (nodes_disconnect f source destination id) (queues_disconnect f source destination id)
  | addRelationship n r =>
    exact relieved_set hf (Node.relieved_addRelationship (hf n) r) (Node.sound_addRelationship (hf n) r)
  | setTriggersOnAny n =>
    have hn := hf n
    exact relieved_set hf (Node.relieved_triggersOnAny (f.nodes n)) ⟨hn.wiring, hn.sources, hn.destinations⟩

theorem relieved_of_relaxed (hf : ∀ n, (f.nodes n).Sound) (h : Relation.ReflTransGen Relaxes f g) :
    f.Relieved g := by
  induction h with
  | refl => exact ⟨fun n => .refl f.isFull (f.nodes n), hf⟩
  | tail _ hstep ih => exact ih.trans (hstep.relieved ih.sound)

theorem relaxing_never_tightens (hf : f.Reachable) (h : Relation.ReflTransGen Relaxes f g) (w : Worker) :
    (∀ required, f.mayRun w required = true → g.mayRun w required = true) ∧
      (f.isRestricted w = false → g.isRestricted w = false) := by
  have hnode := (relieved_of_relaxed hf.sound h).nodes w.node
  constructor
  · intro required hn
    exact hnode.satisfied hn
  · exact hnode.unrestricted

theorem loopedAny_relaxed :
    let g := ((loopedAny.addRelationship ⟨0⟩ (.named "late")).2.dequeue ⟨2⟩ 7).2
    Relation.ReflTransGen Relaxes loopedAny g ∧
      loopedAny.mayRun firstWorker 1 = true ∧ g.mayRun firstWorker 1 = true ∧
      loopedAny.isRestricted firstWorker = false ∧ g.isRestricted firstWorker = false := by
  have hsteps : Relation.ReflTransGen Relaxes loopedAny
      ((loopedAny.addRelationship ⟨0⟩ (.named "late")).2.dequeue ⟨2⟩ 7).2 :=
    .tail (.single (.addRelationship _ _ _)) (.dequeue _ _ _)
  obtain ⟨hruns, hpolls⟩ := relaxing_never_tightens reachable_loopedAny hsteps firstWorker
  have hone : loopedAny.mayRun firstWorker 1 = true := by decide +kernel
  have hfree : loopedAny.isRestricted firstWorker = false := by decide +kernel
  exact ⟨hsteps, hone, hruns 1 hone, hfree, hpolls hfree⟩

end Flow

end FlowAdmission
