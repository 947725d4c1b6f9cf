import FlowAdmission.Flow.Worker
import FlowAdmission.Proofs.Calls

namespace FlowAdmission

inductive Action
  | addNode (s : NodeSpec)
  | rename (n : Key Node) (name : String)
  | setTriggersOnAny (n : Key Node) (value : Bool)
  | ask (n : Key Node) (c : Node.Call)
  | connect (source destination : Key Node) (id : EdgeId) (r : Relationship) (q : Key Queue)
  | disconnect (source destination : Key Node) (id : EdgeId)
  | addQueue (q : Queue)
  | setSwitch (q : Key Queue) (full : Bool)
  | enqueue (q : Key Queue) (size : UInt64) (times : Nat)
  | dequeue (q : Key Queue) (size : UInt64)

namespace Flow

variable {f : Flow}

def kept (f : Flow) : Except Refusal Flow → Flow
  | .ok g => g
  | .error _ => f

def ask (f : Flow) (n : Key Node) : Node.Call → Flow
  | .addRelationship r => (f.addRelationship n r).2
  | .attachOutgoing e => f.kept (f.attachOutgoing n e)
  | .attachIncoming e => f.kept (f.attachIncoming n e)
  | .detach id => (f.detach n id).2
  | .detachOutgoing id => (f.detachOutgoing n id).2

def act (f : Flow) : Action → Flow
  | .addNode s => (f.addNode s).2
  | .rename n name => f.rename n name
  | .setTriggersOnAny n value => f.setTriggersOnAny n value
  | .ask n c => f.ask n c
  | .connect source destination id r q => (f.connect source destination id r q).2
  | .disconnect source destination id => (f.disconnect source destination id).2
  | .addQueue q => (f.addQueue q).2
  | .setSwitch q full => f.setSwitch q full
  | .enqueue q size times => f.enqueue q size times
  | .dequeue q size => (f.dequeue q size).2

def run (f : Flow) (as : List Action) : Flow :=
  as.foldl act f

def IsNew (f : Flow) : Prop :=
  ∀ n, ∃ s, f.nodes n = .ofSpec s

def Reachable (f : Flow) : Prop :=
  ∃ f₀ as, IsNew f₀ ∧ f = f₀.run as

theorem isNew_empty : empty.IsNew :=
  fun _ => ⟨.blank, rfl⟩

end Flow

namespace Node

def Evolves (n m : Node) : Prop :=
  ∃ cs name value, m = { (n.calls cs).2 with name := name, triggersOnAny := value }

namespace Evolves

variable {n m : Node}

theorem refl (n : Node) : n.Evolves n :=
  ⟨[], _, _, rfl⟩

theorem sound (h : n.Evolves m) (hn : n.Sound) : m.Sound := by
  obtain ⟨cs, name, value, rfl⟩ := h
  have hc := sound_calls hn cs
  exact ⟨hc.wiring, hc.sources, hc.destinations⟩

theorem id_eq (h : n.Evolves m) : m.id = n.id := by
  obtain ⟨cs, name, value, rfl⟩ := h
  exact calls_id n cs

end Evolves

end Node

def Called (nodes after : Store Node) : Prop :=
  ∀ n, ∃ cs, after n = ((nodes n).calls cs).2

namespace Called

variable {nodes middle after : Store Node}

theorem refl (nodes : Store Node) : Called nodes nodes :=
  fun _ => ⟨[], rfl⟩

theorem trans (h : Called nodes middle) (g : Called middle after) : Called nodes after := by
  intro n
  obtain ⟨cs, hcs⟩ := h n
  obtain ⟨ds, hds⟩ := g n
  exact ⟨cs ++ ds, by rw [hds, hcs, Node.calls_append]⟩

theorem set (nodes : Store Node) (n : Key Node) (c : Node.Call) :
    Called nodes (nodes.set n ((nodes n).call c).2) :=
  Store.forall_set (P := fun k m => ∃ cs, m = ((nodes k).calls cs).2) ⟨[c], rfl⟩ (fun _ _ => ⟨[], rfl⟩)

theorem attachOutgoing {n : Key Node} {e : Edge} {m : Node} (h : (nodes n).attachOutgoing e = .ok m) :
    Called nodes (nodes.set n m) := by
  have := set nodes n (.attachOutgoing e)
  rwa [Node.call_attachOutgoing h] at this

theorem attachIncoming {n : Key Node} {e : Edge} {m : Node} (h : (nodes n).attachIncoming e = .ok m) :
    Called nodes (nodes.set n m) := by
  have := set nodes n (.attachIncoming e)
  rwa [Node.call_attachIncoming h] at this

theorem connect (nodes : Store Node) (source destination : Key Node) (id : EdgeId) (r : Relationship)
    (q : Key Queue) : Called nodes (connect nodes source destination id r q).2 := by
  unfold FlowAdmission.connect
  dsimp only
  split
  · exact refl nodes
  · rename_i out hout
    have hwired := attachOutgoing hout
    split
    · exact hwired.trans (set _ source (.detachOutgoing id))
    · rename_i back hback
      exact hwired.trans (attachIncoming hback)

theorem disconnect (nodes : Store Node) (source destination : Key Node) (id : EdgeId) :
    Called nodes (disconnect nodes source destination id).2 :=
  (set nodes source (.detach id)).trans (set _ destination (.detach id))

theorem evolves (h : Called nodes after) (n : Key Node) : (nodes n).Evolves (after n) := by
  obtain ⟨cs, hcs⟩ := h n
  exact ⟨cs, _, _, hcs⟩

end Called

namespace Flow

variable {f : Flow}

theorem kept_eq (f : Flow) (n : Key Node) (result : Except Refusal Node) :
    f.kept (match result with
      | .ok m => .ok { f with nodes := f.nodes.set n m }
      | .error why => .error why) = { f with nodes := f.nodes.set n ((f.nodes n).attaching result).2 } := by
  cases result with
  | ok m => rfl
  | error why => exact congrArg (fun nodes => ({ f with nodes } : Flow)) (Store.set_self f.nodes n).symm

theorem ask_eq (f : Flow) (n : Key Node) (c : Node.Call) :
    f.ask n c = { f with nodes := f.nodes.set n ((f.nodes n).call c).2 } := by
  cases c with
  | addRelationship r => rfl
  | attachOutgoing e => exact kept_eq f n ((f.nodes n).attachOutgoing e)
  | attachIncoming e => exact kept_eq f n ((f.nodes n).attachIncoming e)
  | detach id => rfl
  | detachOutgoing id => rfl

theorem nodes_ask (f : Flow) (n : Key Node) (c : Node.Call) :
    (f.ask n c).nodes = f.nodes.set n ((f.nodes n).call c).2 := by
  rw [ask_eq]

theorem connect_ok {nodes : Store Node} {source destination : Key Node} {id : EdgeId} {r : Relationship}
    {q : Key Queue} {e : Edge}
    (h : FlowAdmission.connect f.nodes source destination id r q = (.ok e, nodes)) :
    f.connect source destination id r q = (.ok e, { f with nodes, log := f.log ++ [.connected e] }) := by
  rw [connect, h]
  rfl

theorem connect_error {nodes : Store Node} {source destination : Key Node} {id : EdgeId} {r : Relationship}
    {q : Key Queue} {why : Refusal}
    (h : FlowAdmission.connect f.nodes source destination id r q = (.error why, nodes)) :
    f.connect source destination id r q = (.error why, { f with nodes }) := by
  rw [connect, h]

theorem connect_noted (f : Flow) (source destination : Key Node) (id : EdgeId) (r : Relationship)
    (q : Key Queue) : f.connect source destination id r q =
      ((FlowAdmission.connect f.nodes source destination id r q).1, { f with
        nodes := (FlowAdmission.connect f.nodes source destination id r q).2
        log := f.log ++ ((FlowAdmission.connect f.nodes source destination id r q).1.toOption.map
          Event.connected).toList }) := by
  rcases h : FlowAdmission.connect f.nodes source destination id r q with ⟨_ | e, nodes⟩
  · rw [connect_error h, Except.toOption, Option.map_none, Option.toList_none, List.append_nil]
  · rw [connect_ok h]
    rfl

theorem disconnect_some {nodes : Store Node} {source destination : Key Node} {id : EdgeId} {e : Edge}
    (h : FlowAdmission.disconnect f.nodes source destination id = (some e, nodes)) :
    f.disconnect source destination id =
      (some e, { f with nodes, log := f.log ++ [.disconnected id] }) := by
  rw [disconnect, h]
  rfl

theorem disconnect_none {nodes : Store Node} {source destination : Key Node} {id : EdgeId}
    (h : FlowAdmission.disconnect f.nodes source destination id = (none, nodes)) :
    f.disconnect source destination id = (none, { f with nodes }) := by
  rw [disconnect, h]

theorem disconnect_noted (f : Flow) (source destination : Key Node) (id : EdgeId) :
    f.disconnect source destination id =
      ((FlowAdmission.disconnect f.nodes source destination id).1, { f with
        nodes := (FlowAdmission.disconnect f.nodes source destination id).2
        log := f.log ++ ((FlowAdmission.disconnect f.nodes source destination id).1.map
          (fun _ => Event.disconnected id)).toList }) := by
  rcases h : FlowAdmission.disconnect f.nodes source destination id with ⟨_ | e, nodes⟩
  · rw [disconnect_none h, Option.map_none, Option.toList_none, List.append_nil]
  · rw [disconnect_some h]
    rfl

theorem fst_connect (f : Flow) (source destination : Key Node) (id : EdgeId) (r : Relationship)
    (q : Key Queue) : (f.connect source destination id r q).1 =
      (FlowAdmission.connect f.nodes source destination id r q).1 := by
  rw [connect_noted]

theorem nodes_connect (f : Flow) (source destination : Key Node) (id : EdgeId) (r : Relationship)
    (q : Key Queue) :
    (f.connect source destination id r q).2.nodes =
      (FlowAdmission.connect f.nodes source destination id r q).2 := by
  rw [connect_noted]

theorem fst_disconnect (f : Flow) (source destination : Key Node) (id : EdgeId) :
    (f.disconnect source destination id).1 = (FlowAdmission.disconnect f.nodes source destination id).1 := by
  rw [disconnect_noted]

theorem nodes_disconnect (f : Flow) (source destination : Key Node) (id : EdgeId) :
    (f.disconnect source destination id).2.nodes =
      (FlowAdmission.disconnect f.nodes source destination id).2 := by
  rw [disconnect_noted]

theorem nodes_enqueue (f : Flow) (q : Key Queue) (size : UInt64) (times : Nat) :
    (f.enqueue q size times).nodes = f.nodes := by
  rw [enqueue]
  split <;> rfl

theorem nodes_dequeue (f : Flow) (q : Key Queue) (size : UInt64) :
    (f.dequeue q size).2.nodes = f.nodes := by
  rw [dequeue]
  split <;> rfl

theorem node_act (f : Flow) (a : Action) (k : Key Node) :
    (∃ s, a = .addNode s ∧ (f.act a).nodes k = .ofSpec s) ∨ (f.nodes k).Evolves ((f.act a).nodes k) := by
  have hset (n : Key Node) {m : Node} (hm : (f.nodes n).Evolves m) :
      (f.nodes k).Evolves (f.nodes.set n m k) :=
    Store.forall_set (P := fun j b => (f.nodes j).Evolves b) hm (fun j _ => Node.Evolves.refl (f.nodes j)) k
  have hsame := Node.Evolves.refl (f.nodes k)
  cases a with
  | addNode s =>
    by_cases hk : k = ⟨f.names⟩
    · subst hk
      exact .inl ⟨s, rfl, Store.set_same _ _ _⟩
    · right
      rw [show (f.act (.addNode s)).nodes k = f.nodes k from Store.set_other _ _ hk]
      exact hsame
  | rename n name => exact .inr (hset n ⟨[], name, _, rfl⟩)
  | setTriggersOnAny n value => exact .inr (hset n ⟨[], _, value, rfl⟩)
  | ask n c =>
    rw [act, nodes_ask]
    exact .inr ((Called.set f.nodes n c).evolves k)
  | connect source destination id r q =>
    rw [act, nodes_connect]
    exact .inr ((Called.connect f.nodes source destination id r q).evolves k)
  | disconnect source destination id =>
    rw [act, nodes_disconnect]
    exact .inr ((Called.disconnect f.nodes source destination id).evolves k)
  | addQueue q => exact .inr hsame
  | setSwitch q full => exact .inr hsame
  | enqueue q size times =>
    rw [act, nodes_enqueue]
    exact .inr hsame
  | dequeue q size =>
    rw [act, nodes_dequeue]
    exact .inr hsame

theorem sound_act {k : Key Node} (h : (f.nodes k).Sound) (a : Action) : ((f.act a).nodes k).Sound := by
  rcases node_act f a k with ⟨s, _, hs⟩ | hk
  · rw [hs]
    exact Node.sound_ofSpec s
  · exact hk.sound h

theorem sound_run {k : Key Node} (h : (f.nodes k).Sound) (as : List Action) :
    ((f.run as).nodes k).Sound := by
  induction as generalizing f with
  | nil => exact h
  | cons a as ih => exact ih (sound_act h a)

theorem Reachable.sound (h : f.Reachable) (k : Key Node) : (f.nodes k).Sound := by
  obtain ⟨f₀, as, hnew, rfl⟩ := h
  obtain ⟨s, hs⟩ := hnew k
  apply sound_run
  rw [hs]
  exact Node.sound_ofSpec s

end Flow

end FlowAdmission
