import FlowAdmission.Proofs.Counting
import FlowAdmission.Proofs.Steps

namespace FlowAdmission

def Relationship.bare (r : Relationship) : Relationship :=
  .named r.name

def Edge.bare (e : Edge) : Edge :=
  { e with relationship := e.relationship.bare }

def Bundle.bare (b : Bundle) : Bundle :=
  { b with edges := b.edges.map Edge.bare }

def Wiring.bare (w : Wiring) : Wiring :=
  ⟨w.relationships.map Relationship.bare, w.bundles.map Bundle.bare, w.incoming.map Edge.bare⟩

def Node.bare (n : Node) : Node :=
  { n with wiring := n.wiring.bare }

def NodeSpec.bare (s : NodeSpec) : NodeSpec :=
  { s with relationships := s.relationships.map Relationship.bare }

def Node.Call.bare : Node.Call → Node.Call
  | .addRelationship r => .addRelationship r.bare
  | .attachOutgoing e => .attachOutgoing e.bare
  | .attachIncoming e => .attachIncoming e.bare
  | .detach id => .detach id
  | .detachOutgoing id => .detachOutgoing id

def Node.Answer.bare : Node.Answer → Node.Answer
  | .declared new => .declared new
  | .attached => .attached
  | .refused why => .refused why
  | .taken edge => .taken (edge.map Edge.bare)

def Event.bare : Event → Event
  | .connected e => .connected e.bare
  | .repeatedRelationship n r => .repeatedRelationship n r
  | .disconnected id => .disconnected id
  | .restricted n => .restricted n

def Store.bare (nodes : Store Node) : Store Node :=
  fun n => (nodes n).bare

def Flow.bare (f : Flow) : Flow :=
  { f with nodes := f.nodes.bare, log := f.log.map Event.bare }

def Action.bare : Action → Action
  | .addNode s => .addNode s.bare
  | .rename n name => .rename n name
  | .setTriggersOnAny n value => .setTriggersOnAny n value
  | .ask n c => .ask n c.bare
  | .connect source destination id r q => .connect source destination id r.bare q
  | .disconnect source destination id => .disconnect source destination id
  | .addQueue q => .addQueue q
  | .setSwitch q full => .setSwitch q full
  | .enqueue q size times => .enqueue q size times
  | .dequeue q size => .dequeue q size

def Move.bare : Move → Move
  | .act a => .act a.bare
  | .addWorker n shared recording => .addWorker n shared recording
  | .addTasks n ledger recording => .addTasks n ledger recording
  | .poll w => .poll w
  | .advance w => .advance w
  | .nextIndex w => .nextIndex w
  | .adjustCounter w name delta => .adjustCounter w name delta
  | .draw w => .draw w

def Query.bare : Query → Query
  | .edgesOf n r => .edgesOf n r.bare
  | .isAvailable n r => .isAvailable n r.bare
  | .relationships n => .relationships n
  | .outgoing n => .outgoing n
  | .incoming n => .incoming n
  | .satisfied n required => .satisfied n required
  | .anyAvailable n => .anyAvailable n
  | .anyFull n => .anyFull n
  | .isRestricted w => .isRestricted w
  | .mayRun w required => .mayRun w required

def Step.bare : Step → Step
  | .move m => .move m.bare
  | .look q => .look q.bare

def Answer.bare : Answer → Answer
  | .done => .done
  | .name number => .name number
  | .asked a => .asked a.bare
  | .linked result => .linked (result.map Edge.bare)
  | .taken edge => .taken (edge.map Edge.bare)
  | .workers ws => .workers ws
  | .relationships rs => .relationships (rs.map Relationship.bare)
  | .edges es => .edges (es.map Edge.bare)
  | .decided b => .decided b
  | .index i => .index i
  | .word n => .word n

namespace Relationship

@[simp] theorem name_bare (r : Relationship) : r.bare.name = r.name := rfl

theorem firsts_bare (rs : List Relationship) : (firsts rs).map bare = firsts (rs.map bare) := by
  induction rs with
  | nil => rfl
  | cons r rs ih =>
    rw [firsts, List.map_cons, List.map_cons, firsts, ← ih, List.filter_map]
    rfl

theorem repeats_bare (rs : List Relationship) (seen : List String) :
    repeats seen (rs.map bare) = (repeats seen rs).map bare := by
  induction rs generalizing seen with
  | nil => rfl
  | cons r rs ih =>
    rw [List.map_cons, repeats, repeats, name_bare]
    split
    · rw [ih, List.map_cons]
    · exact ih (r.name :: seen)

end Relationship

namespace Bundle

theorem append_bare (e : Edge) (b : Bundle) : (b.append e).bare = b.bare.append e.bare := by
  rw [append, bare, List.map_append]
  rfl

theorem attach_bare (e : Edge) (bs : List Bundle) :
    (attach e bs).map bare = attach e.bare (bs.map bare) := by
  apply Keyed.map_entry
  · intro b
    rfl
  · exact append_bare e

theorem without_bare (id : EdgeId) (b : Bundle) : (b.without id).bare = b.bare.without id := by
  have hedges : b.bare.edges.eraseP (Edge.hasId id) = (b.edges.eraseP (Edge.hasId id)).map Edge.bare := List.eraseP_map
  rw [without, without, hedges]
  rfl

end Bundle

namespace Wiring

variable (w : Wiring)

theorem declares_bare (name : String) : w.bare.declares name = w.declares name :=
  List.any_map

theorem edgesOf_bare (name : String) : w.bare.edgesOf name = (w.edgesOf name).map Edge.bare := by
  have hfind : Keyed.get? Bundle.relationship name w.bare.bundles =
      (Keyed.get? Bundle.relationship name w.bundles).map Bundle.bare := List.find?_map
  rw [edgesOf, edgesOf, hfind]
  cases Keyed.get? Bundle.relationship name w.bundles <;> rfl

theorem outlets_bare : w.bare.outlets = w.outlets.map (List.map Edge.bare) := by
  rw [outlets, outlets, bare, List.map_map, List.map_map]
  exact List.map_congr_left fun r _ => edgesOf_bare w r.name

theorem outgoing_bare : w.bare.outgoing = w.outgoing.map Edge.bare := by
  rw [outgoing, outgoing, outlets_bare, List.map_flatten]

theorem hasOutgoing_bare (id : EdgeId) : w.bare.hasOutgoing id = w.hasOutgoing id := by
  rw [hasOutgoing, bare, List.any_map]
  exact congrArg w.bundles.any (funext fun b => List.any_map)

theorem hasIncoming_bare (id : EdgeId) : w.bare.hasIncoming id = w.hasIncoming id :=
  List.any_map

theorem declare_bare (r : Relationship) : (w.declare r).bare = w.bare.declare r.bare := by
  rw [declare, bare, List.map_append]
  rfl

theorem addOutgoing_bare (e : Edge) : (w.addOutgoing e).bare = w.bare.addOutgoing e.bare := by
  rw [addOutgoing, bare, Bundle.attach_bare]
  rfl

theorem addIncoming_bare (e : Edge) : (w.addIncoming e).bare = w.bare.addIncoming e.bare := by
  rw [addIncoming, bare, List.map_append]
  rfl

theorem takeOutgoing_bare (id : EdgeId) :
    w.bare.takeOutgoing id = ((w.takeOutgoing id).1.map Edge.bare, (w.takeOutgoing id).2.bare) := by
  have htaken : w.bare.bundles.filterMap (·.edges.find? (Edge.hasId id)) =
      (w.bundles.filterMap (·.edges.find? (Edge.hasId id))).map Edge.bare := by
    rw [bare, List.filterMap_map, List.map_filterMap]
    exact congrArg (fun f => w.bundles.filterMap f) (funext fun b => List.find?_map)
  have hleft : (w.bare.bundles.map (Bundle.without id)).filter (!·.edges.isEmpty) =
      ((w.bundles.map (Bundle.without id)).filter (!·.edges.isEmpty)).map Bundle.bare := by
    have hwithout : w.bare.bundles.map (Bundle.without id) = (w.bundles.map (Bundle.without id)).map Bundle.bare := by
      rw [bare, List.map_map, List.map_map]
      exact List.map_congr_left fun b _ => (Bundle.without_bare id b).symm
    rw [hwithout, List.filter_map]
    exact congrArg (fun p => ((w.bundles.map (Bundle.without id)).filter p).map Bundle.bare)
      (funext fun b => congrArg not List.isEmpty_map)
  rw [takeOutgoing, takeOutgoing, htaken, hleft, List.getLast?_map]
  rfl

theorem takeIncoming_bare (id : EdgeId) :
    w.bare.takeIncoming id = ((w.takeIncoming id).1.map Edge.bare, (w.takeIncoming id).2.bare) := by
  have hfind : w.bare.incoming.find? (Edge.hasId id) = (w.incoming.find? (Edge.hasId id)).map Edge.bare :=
    List.find?_map
  have hleft : w.bare.incoming.eraseP (Edge.hasId id) = (w.incoming.eraseP (Edge.hasId id)).map Edge.bare :=
    List.eraseP_map
  rw [takeIncoming, takeIncoming, hfind, hleft]
  rfl

end Wiring

namespace Node

variable (n : Node)

theorem ofSpec_bare (s : NodeSpec) : (ofSpec s).bare = ofSpec s.bare := by
  rw [ofSpec, ofSpec, NodeSpec.bare, bare, Wiring.bare, Wiring.ofRelationships, Relationship.firsts_bare]
  rfl

theorem incoming_bare : n.bare.incoming = n.incoming.map Edge.bare := rfl

theorem outgoing_bare : n.bare.outgoing = n.outgoing.map Edge.bare :=
  Wiring.outgoing_bare n.wiring

theorem edgesOf_bare (r : Relationship) : n.bare.edgesOf r.bare = (n.edgesOf r).map Edge.bare :=
  Wiring.edgesOf_bare n.wiring r.name

theorem addRelationship_bare (r : Relationship) :
    n.bare.addRelationship r.bare = ((n.addRelationship r).1, (n.addRelationship r).2.bare) := by
  have hdeclares : n.bare.wiring.declares r.bare.name = n.wiring.declares r.name := Wiring.declares_bare n.wiring r.name
  rw [addRelationship, addRelationship, hdeclares]
  split
  · rfl
  · rw [bare, bare, Wiring.declare_bare]

theorem attachOutgoing_bare (e : Edge) : n.bare.attachOutgoing e.bare = (n.attachOutgoing e).map bare := by
  have hdeclares : n.bare.wiring.declares e.bare.relationship.name = n.wiring.declares e.relationship.name :=
    Wiring.declares_bare n.wiring e.relationship.name
  have hhas : n.bare.wiring.hasOutgoing e.bare.id = n.wiring.hasOutgoing e.id := Wiring.hasOutgoing_bare n.wiring e.id
  have hadd : { n.bare with wiring := n.bare.wiring.addOutgoing e.bare } =
      bare { n with wiring := n.wiring.addOutgoing e } := by
    rw [bare, bare, Wiring.addOutgoing_bare]
  have hsource : (e.bare.source ≠ n.bare.id) = (e.source ≠ n.id) := rfl
  simp only [attachOutgoing, hsource, hdeclares, hhas, hadd]
  split
  · rfl
  · split
    · rfl
    · split <;> rfl

theorem attachIncoming_bare (e : Edge) : n.bare.attachIncoming e.bare = (n.attachIncoming e).map bare := by
  have hhas : n.bare.wiring.hasIncoming e.bare.id = n.wiring.hasIncoming e.id := Wiring.hasIncoming_bare n.wiring e.id
  have hadd : { n.bare with wiring := n.bare.wiring.addIncoming e.bare } =
      bare { n with wiring := n.wiring.addIncoming e } := by
    rw [bare, bare, Wiring.addIncoming_bare]
  have hdestination : (e.bare.destination ≠ n.bare.id) = (e.destination ≠ n.id) := rfl
  simp only [attachIncoming, hdestination, hhas, hadd]
  split
  · rfl
  · split <;> rfl

theorem detachOutgoing_bare (id : EdgeId) :
    n.bare.detachOutgoing id = ((n.detachOutgoing id).1.map Edge.bare, (n.detachOutgoing id).2.bare) := by
  have htake : n.bare.wiring.takeOutgoing id =
      ((n.wiring.takeOutgoing id).1.map Edge.bare, (n.wiring.takeOutgoing id).2.bare) :=
    Wiring.takeOutgoing_bare n.wiring id
  rw [detachOutgoing, detachOutgoing, htake]
  rfl

theorem detach_bare (id : EdgeId) : n.bare.detach id = ((n.detach id).1.map Edge.bare, (n.detach id).2.bare) := by
  rw [detach_eq, detach_eq, detachOutgoing_bare]
  have htake : (n.detachOutgoing id).2.bare.wiring.takeIncoming id =
      (((n.detachOutgoing id).2.wiring.takeIncoming id).1.map Edge.bare,
        ((n.detachOutgoing id).2.wiring.takeIncoming id).2.bare) :=
    Wiring.takeIncoming_bare (n.detachOutgoing id).2.wiring id
  have hback : n.bare.wiring.takeIncoming id =
      ((n.wiring.takeIncoming id).1.map Edge.bare, (n.wiring.takeIncoming id).2.bare) :=
    Wiring.takeIncoming_bare n.wiring id
  rw [htake, hback, Option.map_or]
  rfl

theorem attaching_bare (result : Except Refusal Node) :
    n.bare.attaching (result.map bare) = ((n.attaching result).1.bare, (n.attaching result).2.bare) := by
  cases result <;> rfl

theorem call_bare (c : Call) : n.bare.call c.bare = ((n.call c).1.bare, (n.call c).2.bare) := by
  cases c with
  | addRelationship r =>
    rw [Call.bare, call, addRelationship_bare]
    rfl
  | attachOutgoing e =>
    rw [Call.bare, call, attachOutgoing_bare]
    exact attaching_bare n _
  | attachIncoming e =>
    rw [Call.bare, call, attachIncoming_bare]
    exact attaching_bare n _
  | detach id =>
    rw [Call.bare, call, detach_bare]
    rfl
  | detachOutgoing id =>
    rw [Call.bare, call, detachOutgoing_bare]
    rfl

section Admission

variable (full : Key Queue → Bool)

theorem all_isAvailable_bare (es : List Edge) : (es.map Edge.bare).all (Edge.isAvailable full) = es.all (Edge.isAvailable full) :=
  List.all_map

theorem satisfied_bare (required : Nat) : n.bare.satisfied full required = n.satisfied full required := by
  have houtlets : n.bare.wiring.outlets = n.wiring.outlets.map (List.map Edge.bare) := Wiring.outlets_bare n.wiring
  rw [satisfied, satisfied, houtlets, Scan.satisfied_map]
  exact congrArg (fun p => Scan.satisfied p required n.wiring.outlets) (funext (all_isAvailable_bare full))

theorem finding_bare (os : List (List Edge)) : Scan.finding (·.all (Edge.isAvailable full)) (os.map (List.map Edge.bare)) =
    Scan.finding (·.all (Edge.isAvailable full)) os := by
  induction os with
  | nil => rfl
  | cons o os ih => rw [List.map_cons, Scan.finding, Scan.finding, all_isAvailable_bare, ih]

theorem anyAvailable_bare : n.bare.anyAvailable full = n.anyAvailable full := by
  have houtlets : n.bare.wiring.outlets = n.wiring.outlets.map (List.map Edge.bare) := Wiring.outlets_bare n.wiring
  rw [anyAvailable, anyAvailable, houtlets, Scan.anyAvailable, Scan.anyAvailable, List.isEmpty_map, finding_bare]

theorem anyFull_bare : n.bare.anyFull full = n.anyFull full := by
  rw [anyFull, outgoing_bare, List.any_map]
  rfl

theorem isRestricted_bare : n.bare.isRestricted full = n.isRestricted full := by
  rw [isRestricted, isRestricted, anyAvailable_bare, anyFull_bare]
  rfl

theorem pollable_bare : n.bare.pollable full = (n.pollable full).map Edge.bare := by
  rw [pollable, pollable, isRestricted_bare, incoming_bare]
  split
  · rw [List.filter_map]
    rfl
  · rfl

end Admission

end Node

namespace Store

theorem set_bare (nodes : Store Node) (k : Key Node) (n : Node) : nodes.bare.set k n.bare = bare (nodes.set k n) := by
  funext j
  rw [bare, set, set]
  split <;> rfl

end Store

theorem connect_bare (nodes : Store Node) (source destination : Key Node) (id : EdgeId) (r : Relationship)
    (q : Key Queue) : connect nodes.bare source destination id r.bare q =
      ((connect nodes source destination id r q).1.map Edge.bare,
        Store.bare (connect nodes source destination id r q).2) := by
  have hedge : (⟨id, (nodes.bare source).id, (nodes.bare destination).id, r.bare, q⟩ : Edge) =
      Edge.bare ⟨id, (nodes source).id, (nodes destination).id, r, q⟩ := rfl
  have hout (e : Edge) : (nodes.bare source).attachOutgoing e.bare = ((nodes source).attachOutgoing e).map Node.bare :=
    (nodes source).attachOutgoing_bare e
  unfold connect
  dsimp only
  rw [hedge, hout]
  cases (nodes source).attachOutgoing ⟨id, (nodes source).id, (nodes destination).id, r, q⟩ with
  | error why => rfl
  | ok out =>
    have hback (e : Edge) : (Store.bare (nodes.set source out) destination).attachIncoming e.bare =
        ((nodes.set source out destination).attachIncoming e).map Node.bare :=
      (nodes.set source out destination).attachIncoming_bare e
    have hundo : ((Store.bare (nodes.set source out) source).detachOutgoing id).2 =
        ((nodes.set source out source).detachOutgoing id).2.bare :=
      congrArg Prod.snd ((nodes.set source out source).detachOutgoing_bare id)
    simp only [Except.map]
    rw [Store.set_bare, hback, hundo]
    cases (nodes.set source out destination).attachIncoming ⟨id, (nodes source).id, (nodes destination).id, r, q⟩ with
    | error why => exact congrArg (Prod.mk _) (Store.set_bare _ _ _)
    | ok back => exact congrArg (Prod.mk _) (Store.set_bare _ _ _)

theorem disconnect_bare (nodes : Store Node) (source destination : Key Node) (id : EdgeId) :
    disconnect nodes.bare source destination id =
      ((disconnect nodes source destination id).1.map Edge.bare,
        Store.bare (disconnect nodes source destination id).2) := by
  have hdetach (nodes : Store Node) (n : Key Node) : (nodes.bare n).detach id =
      (((nodes n).detach id).1.map Edge.bare, ((nodes n).detach id).2.bare) := (nodes n).detach_bare id
  unfold disconnect
  simp only [hdetach, Store.set_bare, Option.map_or]

namespace Flow

variable (f : Flow)

theorem note_bare (events : List Event) : (f.note events).bare = f.bare.note (events.map Event.bare) := by
  rw [note, bare, List.map_append]
  rfl

theorem addNode_bare (s : NodeSpec) : f.bare.addNode s.bare = ((f.addNode s).1, (f.addNode s).2.bare) := by
  have hnodes : f.bare.nodes.set ⟨f.names⟩ (.ofSpec s.bare) = Store.bare (f.nodes.set ⟨f.names⟩ (.ofSpec s)) := by
    rw [← Node.ofSpec_bare]
    exact Store.set_bare f.nodes ⟨f.names⟩ (.ofSpec s)
  have hlog : f.bare.log ++ (Relationship.repeats [] s.bare.relationships).map (Event.repeatedRelationship s.id ·.name) =
      (f.log ++ (Relationship.repeats [] s.relationships).map (Event.repeatedRelationship s.id ·.name)).map Event.bare := by
    rw [NodeSpec.bare, Relationship.repeats_bare, List.map_append, List.map_map, List.map_map]
    rfl
  exact congrArg₂ (fun nodes log => ((⟨f.names⟩ : Key Node), ({ f with nodes, log, names := f.names + 1 } : Flow)))
    hnodes hlog

theorem changeNode_bare (n : Key Node) (change : Node → Node) (h : ∀ m : Node, change m.bare = (change m).bare) :
    f.bare.changeNode n change = (f.changeNode n change).bare := by
  have hnodes : f.bare.nodes.set n (change (f.nodes n).bare) = Store.bare (f.nodes.set n (change (f.nodes n))) := by
    rw [h]
    exact Store.set_bare f.nodes n (change (f.nodes n))
  exact congrArg (fun nodes => ({ f.bare with nodes } : Flow)) hnodes

theorem ask_bare (n : Key Node) (c : Node.Call) : f.bare.ask n c.bare = (f.ask n c).bare := by
  have hcall : (f.bare.nodes n).call c.bare = (((f.nodes n).call c).1.bare, ((f.nodes n).call c).2.bare) :=
    (f.nodes n).call_bare c
  rw [ask_eq, ask_eq, hcall]
  exact congrArg (fun nodes => ({ f.bare with nodes } : Flow)) (Store.set_bare f.nodes n ((f.nodes n).call c).2)

theorem connect_bare (source destination : Key Node) (id : EdgeId) (r : Relationship) (q : Key Queue) :
    f.bare.connect source destination id r.bare q =
      ((f.connect source destination id r q).1.map Edge.bare, (f.connect source destination id r q).2.bare) := by
  have hbare := FlowAdmission.connect_bare f.nodes source destination id r q
  rcases h : FlowAdmission.connect f.nodes source destination id r q with ⟨result, nodes⟩
  rw [h] at hbare
  cases result with
  | ok e =>
    rw [connect_ok h, connect_ok (f := f.bare) hbare]
    exact congrArg (Prod.mk (Except.ok e.bare)) (note_bare { f with nodes } [.connected e]).symm
  | error why =>
    rw [connect_error h, connect_error (f := f.bare) hbare]
    rfl

theorem disconnect_bare (source destination : Key Node) (id : EdgeId) : f.bare.disconnect source destination id =
    ((f.disconnect source destination id).1.map Edge.bare, (f.disconnect source destination id).2.bare) := by
  have hbare := FlowAdmission.disconnect_bare f.nodes source destination id
  rcases h : FlowAdmission.disconnect f.nodes source destination id with ⟨removed, nodes⟩
  rw [h] at hbare
  cases removed with
  | some e =>
    rw [disconnect_some h, disconnect_some (f := f.bare) hbare]
    exact congrArg (Prod.mk (some e.bare)) (note_bare { f with nodes } [.disconnected id]).symm
  | none =>
    rw [disconnect_none h, disconnect_none (f := f.bare) hbare]
    rfl

theorem enqueue_bare (q : Key Queue) (size : UInt64) (times : Nat) :
    f.bare.enqueue q size times = (f.enqueue q size times).bare := by
  have hqueue : f.bare.queues q = f.queues q := rfl
  rw [enqueue, enqueue, hqueue]
  cases f.queues q <;> rfl

theorem dequeue_bare (q : Key Queue) (size : UInt64) :
    f.bare.dequeue q size = ((f.dequeue q size).1, (f.dequeue q size).2.bare) := by
  have hqueue : f.bare.queues q = f.queues q := rfl
  rw [dequeue, dequeue, hqueue]
  cases f.queues q <;> rfl

theorem act_bare (a : Action) : f.bare.act a.bare = (f.act a).bare := by
  cases a with
  | addNode s => exact congrArg Prod.snd (addNode_bare f s)
  | rename n name => exact changeNode_bare f n (fun node => { node with name }) fun _ => rfl
  | setTriggersOnAny n value => exact changeNode_bare f n (fun node => { node with triggersOnAny := value }) fun _ => rfl
  | ask n c => exact ask_bare f n c
  | connect source destination id r q => exact congrArg Prod.snd (connect_bare f source destination id r q)
  | disconnect source destination id => exact congrArg Prod.snd (disconnect_bare f source destination id)
  | addQueue q => rfl
  | setSwitch q full => rfl
  | enqueue q size times => exact enqueue_bare f q size times
  | dequeue q size => exact congrArg Prod.snd (dequeue_bare f q size)

theorem answerAct_bare (a : Action) : f.bare.answerAct a.bare = (f.answerAct a).bare := by
  cases a with
  | addNode s => rfl
  | rename n name => rfl
  | setTriggersOnAny n value => rfl
  | ask n c => exact congrArg (fun p => Answer.asked p.1) ((f.nodes n).call_bare c)
  | connect source destination id r q =>
    exact congrArg (fun p => Answer.linked p.1) (connect_bare f source destination id r q)
  | disconnect source destination id =>
    exact congrArg (fun p => Answer.taken p.1) (disconnect_bare f source destination id)
  | addQueue q => rfl
  | setSwitch q full => rfl
  | enqueue q size times => rfl
  | dequeue q size => exact congrArg (fun p => Answer.decided p.1) (dequeue_bare f q size)

theorem addWorker_bare (n : Key Node) (shared : Shared) (recording : Bool) : f.bare.addWorker n shared recording =
    ((f.addWorker n shared recording).1, (f.addWorker n shared recording).2.bare) := by
  obtain ⟨rotation, ledger, sequence⟩ := shared
  cases rotation <;> cases ledger <;> cases sequence <;> rfl

theorem addTasks_bare (n : Key Node) (ledger : Key Ledger) (recording : Bool) : f.bare.addTasks n ledger recording =
    ((f.addTasks n ledger recording).1, (f.addTasks n ledger recording).2.bare) := rfl

theorem meterPollable_bare (m : Key Meter) (count : UInt64) :
    (f.bare.meterPollable m count).2 = (f.meterPollable m count).2.bare := rfl

theorem poll_bare (w : Worker) : f.bare.poll w = ((f.poll w).1.map Edge.bare, (f.poll w).2.bare) := by
  have hrestricted : (f.bare.nodes w.node).isRestricted f.bare.isFull = (f.nodes w.node).isRestricted f.isFull :=
    (f.nodes w.node).isRestricted_bare f.isFull
  have hpollable : (f.bare.nodes w.node).pollable f.bare.isFull = ((f.nodes w.node).pollable f.isFull).map Edge.bare :=
    (f.nodes w.node).pollable_bare f.isFull
  have hnote : (f.bare.note [.restricted (f.bare.nodes w.node).id]).meterEngaged w.meter =
      ((f.note [.restricted (f.nodes w.node).id]).meterEngaged w.meter).bare :=
    congrArg (fun g : Flow => g.meterEngaged w.meter) (note_bare f [.restricted (f.nodes w.node).id]).symm
  rw [poll, poll, hrestricted, hpollable, hnote]
  dsimp only
  rw [List.length_map, ← meterPollable_bare]
  split <;> rfl

theorem nextIndex_bare (w : Worker) : f.bare.nextIndex w = ((f.nextIndex w).1, (f.nextIndex w).2.bare) := by
  have hlength : (f.bare.nodes w.node).incoming.length = (f.nodes w.node).incoming.length := List.length_map _
  rw [nextIndex, nextIndex, hlength]
  rfl

theorem move_bare (m : Move) : f.bare.move m.bare = (f.move m).bare := by
  cases m with
  | act a => exact act_bare f a
  | addWorker n shared recording => exact congrArg Prod.snd (addWorker_bare f n shared recording)
  | addTasks n ledger recording => exact congrArg Prod.snd (addTasks_bare f n ledger recording)
  | poll w => exact congrArg Prod.snd (poll_bare f w)
  | advance w => rfl
  | nextIndex w => exact congrArg Prod.snd (nextIndex_bare f w)
  | adjustCounter w name delta => rfl
  | draw w => rfl

theorem answerMove_bare (m : Move) : f.bare.answerMove m.bare = (f.answerMove m).bare := by
  cases m with
  | act a => exact answerAct_bare f a
  | addWorker n shared recording =>
    exact congrArg (fun p => Answer.workers [p.1]) (addWorker_bare f n shared recording)
  | addTasks n ledger recording => exact congrArg (fun p => Answer.workers p.1) (addTasks_bare f n ledger recording)
  | poll w => exact congrArg (fun p => Answer.edges p.1) (poll_bare f w)
  | advance w => rfl
  | nextIndex w => exact congrArg (fun p => Answer.index p.1) (nextIndex_bare f w)
  | adjustCounter w name delta => rfl
  | draw w => rfl

theorem see_bare (q : Query) : f.bare.see q.bare = (f.see q).bare := by
  cases q with
  | relationships n => rfl
  | edgesOf n r => exact congrArg Answer.edges ((f.nodes n).edgesOf_bare r)
  | outgoing n => exact congrArg Answer.edges (f.nodes n).outgoing_bare
  | incoming n => rfl
  | isAvailable n r =>
    have hall := Node.all_isAvailable_bare f.isFull ((f.nodes n).edgesOf r)
    rw [← (f.nodes n).edgesOf_bare r] at hall
    exact congrArg Answer.decided hall
  | satisfied n required =>
    exact congrArg (fun s : Scan => Answer.decided s.answer) ((f.nodes n).satisfied_bare f.isFull required)
  | anyAvailable n => exact congrArg (fun s : Scan => Answer.decided s.answer) ((f.nodes n).anyAvailable_bare f.isFull)
  | anyFull n => exact congrArg Answer.decided ((f.nodes n).anyFull_bare f.isFull)
  | isRestricted w => exact congrArg Answer.decided ((f.nodes w.node).isRestricted_bare f.isFull)
  | mayRun w required =>
    exact congrArg (fun s : Scan => Answer.decided s.answer) ((f.nodes w.node).satisfied_bare f.isFull required)

theorem step_bare (s : Step) : f.bare.step s.bare = (f.step s).bare ∧ f.bare.answer s.bare = (f.answer s).bare := by
  cases s with
  | move m => exact ⟨move_bare f m, answerMove_bare f m⟩
  | look q => exact ⟨rfl, see_bare f q⟩

theorem answers_bare (ss : List Step) : f.bare.answers (ss.map Step.bare) = (f.answers ss).map Answer.bare := by
  induction ss generalizing f with
  | nil => rfl
  | cons s ss ih =>
    obtain ⟨hstep, hanswer⟩ := step_bare f s
    rw [List.map_cons, answers, answers, List.map_cons, hstep, hanswer, ih]

theorem after_bare (ss : List Step) : f.bare.after (ss.map Step.bare) = (f.after ss).bare := by
  induction ss generalizing f with
  | nil => rfl
  | cons s ss ih => rw [List.map_cons, after, List.foldl_cons, (step_bare f s).1, ← after, ih, after, after, List.foldl_cons]

theorem descriptions_change_nothing {f g : Flow} {ss ts : List Step} (hflows : f.bare = g.bare)
    (hsteps : ss.map Step.bare = ts.map Step.bare) :
    (f.answers ss).map Answer.bare = (g.answers ts).map Answer.bare ∧ (f.after ss).bare = (g.after ts).bare := by
  constructor
  · rw [← answers_bare, ← answers_bare, hflows, hsteps]
  · rw [← after_bare, ← after_bare, hflows, hsteps]

def relabelled (d d' : String) : List Step := [
  .move (.act (.addNode { NodeSpec.blank with id := ⟨"n"⟩, relationships := [⟨"out", d⟩, ⟨"out", d'⟩] })),
  .move (.act (.ask ⟨0⟩ (.addRelationship ⟨"out", d'⟩))),
  .move (.act (.connect ⟨0⟩ ⟨0⟩ ⟨"e"⟩ ⟨"out", d'⟩ ⟨0⟩)),
  .move (.act (.connect ⟨0⟩ ⟨0⟩ ⟨"e"⟩ ⟨"out", d⟩ ⟨0⟩)),
  .look (.edgesOf ⟨0⟩ ⟨"out", d⟩)]

theorem relabelled_same : (empty.answers (relabelled "first" "second")).map Answer.bare =
    [.name 0, .asked (.declared false), .linked (.ok ⟨⟨"e"⟩, ⟨"n"⟩, ⟨"n"⟩, .named "out", ⟨0⟩⟩),
      .linked (.error (.alreadyAttached ⟨"e"⟩)), .edges [⟨⟨"e"⟩, ⟨"n"⟩, ⟨"n"⟩, .named "out", ⟨0⟩⟩]] :=
  -- without descriptions the answers are these as they stand
  (descriptions_change_nothing (f := empty) (g := empty) rfl
    (show (relabelled "first" "second").map Step.bare = (relabelled "" "").map Step.bare from rfl)).1.trans rfl

end Flow

end FlowAdmission
