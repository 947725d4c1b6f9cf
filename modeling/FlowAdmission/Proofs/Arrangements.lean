import FlowAdmission.Proofs.Calls
import FlowAdmission.Proofs.Keys
import Mathlib.Data.List.Perm.Basic

namespace FlowAdmission

namespace Wiring

variable {w v u : Wiring} {id : EdgeId}

def group? (w : Wiring) (name : String) : Option (List Edge) :=
  (Keyed.get? Bundle.relationship name w.bundles).map (·.edges)

theorem group?_iff (h : w.Sound) {name : String} {es : List Edge} :
    w.group? name = some es ↔ ⟨name, es⟩ ∈ w.bundles := by
  rw [group?, Option.map_eq_some_iff]
  simp only [Keyed.get?_iff h.distinct]
  constructor
  · rintro ⟨b, ⟨hb, rfl⟩, rfl⟩
    exact hb
  · intro hb
    exact ⟨_, ⟨hb, rfl⟩, rfl⟩

theorem mem_bundles_takeOutgoing (h : w.Sound) {b : Bundle} :
    b ∈ (w.takeOutgoing id).2.bundles ↔
      ∃ es, ⟨b.relationship, es⟩ ∈ w.bundles ∧ es.filter (·.id ≠ id) = b.edges ∧ b.edges ≠ [] := by
  rw [takeOutgoing, List.mem_filter, List.mem_map]
  constructor
  · rintro ⟨⟨c, hc, rfl⟩, hfilled⟩
    exact ⟨c.edges, hc, (Edge.eraseP_hasId (bundle_ids h hc) id).symm, by simpa using hfilled⟩
  · rintro ⟨es, hes, hrest, hfilled⟩
    refine ⟨⟨_, hes, ?_⟩, by simpa using hfilled⟩
    rw [Bundle.without, Edge.eraseP_hasId (bundle_ids h hes), hrest]

theorem group?_takeOutgoing (h : w.Sound) (id : EdgeId) (name : String) :
    (w.takeOutgoing id).2.group? name =
      ((w.group? name).map (·.filter (·.id ≠ id))).filter (· ≠ []) := by
  ext es
  rw [group?_iff (sound_takeOutgoing h id), mem_bundles_takeOutgoing h, Option.filter_eq_some_iff,
    Option.map_eq_some_iff, decide_eq_true_eq]
  simp only [← group?_iff h, ← and_assoc, exists_and_right]

theorem perm_takeOutgoing (h : w.Sound) (id : EdgeId) :
    w.attached.Perm ((w.takeOutgoing id).1.toList ++ (w.takeOutgoing id).2.attached) := by
  have hattached : w.attached.Nodup := h.outgoingIds.of_map _
  have htaken : (w.attached.filter (·.id = id)).Perm (w.takeOutgoing id).1.toList := by
    have hone : (w.takeOutgoing id).1.toList.Nodup := by
      cases (w.takeOutgoing id).1 with
      | none => exact List.nodup_nil
      | some e => exact List.nodup_singleton e
    rw [List.perm_ext_iff_of_nodup (hattached.filter _) hone]
    intro e
    rw [List.mem_filter, decide_eq_true_eq, Option.mem_toList, ← takeOutgoing_fst h]
  have hsplit := List.filter_append_perm (fun e : Edge => decide (e.id = id)) w.attached
  rw [attached_takeOutgoing h]
  simp only [← decide_not] at hsplit
  exact hsplit.symm.trans (htaken.append_right _)

theorem hasOutgoing_iff_taken (h : w.Sound) (id : EdgeId) :
    w.hasOutgoing id = true ↔ (w.takeOutgoing id).1.isSome = true := by
  rw [hasOutgoing_iff, Option.isSome_iff_exists]
  exact exists_congr (fun e => (takeOutgoing_fst h id e).symm)

theorem hasOutgoing_takeOutgoing (h : w.Sound) (id : EdgeId) :
    (w.takeOutgoing id).2.hasOutgoing id = false := by
  rw [hasOutgoing_eq_false, attached_takeOutgoing h]
  intro e he
  simpa using (List.mem_filter.mp he).2

structure Rearranged (w v : Wiring) : Prop where
  relationships : v.relationships = w.relationships
  bundles : v.bundles.Perm w.bundles
  incoming : v.incoming = w.incoming

namespace Rearranged

theorem refl (w : Wiring) : w.Rearranged w :=
  ⟨rfl, .refl _, rfl⟩

theorem trans (h : w.Rearranged v) (g : v.Rearranged u) : w.Rearranged u :=
  ⟨g.relationships.trans h.relationships, g.bundles.trans h.bundles, g.incoming.trans h.incoming⟩

theorem attached (hr : w.Rearranged v) : v.attached.Perm w.attached :=
  hr.bundles.flatMap_right _

theorem declares (hr : w.Rearranged v) (name : String) : v.declares name = w.declares name := by
  rw [Wiring.declares, Wiring.declares, hr.relationships]

theorem hasOutgoing (hr : w.Rearranged v) (id : EdgeId) : v.hasOutgoing id = w.hasOutgoing id :=
  hr.bundles.any_eq

theorem hasIncoming (hr : w.Rearranged v) (id : EdgeId) : v.hasIncoming id = w.hasIncoming id := by
  rw [Wiring.hasIncoming, Wiring.hasIncoming, hr.incoming]

theorem sound (hr : w.Rearranged v) (h : w.Sound) : v.Sound where
  names := hr.relationships ▸ h.names
  bundles b hb := h.bundles b (hr.bundles.mem_iff.mp hb)
  declared b hb := (hr.declares b.relationship).trans (h.declared b (hr.bundles.mem_iff.mp hb))
  distinct := (hr.bundles.map _).nodup_iff.mpr h.distinct
  outgoingIds := (hr.attached.map _).nodup_iff.mpr h.outgoingIds
  incomingIds := hr.incoming ▸ h.incomingIds

theorem declare (hr : w.Rearranged v) (r : Relationship) : (w.declare r).Rearranged (v.declare r) :=
  ⟨congrArg (· ++ [r]) hr.relationships, hr.bundles, hr.incoming⟩

theorem addOutgoing (hr : w.Rearranged v) (h : w.Sound) (e : Edge) :
    (w.addOutgoing e).Rearranged (v.addOutgoing e) :=
  ⟨hr.relationships, (Keyed.perm_entry hr.bundles.symm h.distinct).symm, hr.incoming⟩

theorem addIncoming (hr : w.Rearranged v) (e : Edge) : (w.addIncoming e).Rearranged (v.addIncoming e) :=
  ⟨hr.relationships, hr.bundles, congrArg (· ++ [e]) hr.incoming⟩

/-- At most one bundle holds the id, so it does not matter which of several hits would be the last. -/
theorem taken (hr : w.Rearranged v) (h : w.Sound) (id : EdgeId) :
    (v.takeOutgoing id).1 = (w.takeOutgoing id).1 := by
  ext e
  rw [takeOutgoing_fst (hr.sound h), takeOutgoing_fst h, hr.attached.mem_iff]

/-- In a wiring that is not sound, with one id in two bundles, the order would show. -/
example :
    let e (name : String) : Edge := ⟨⟨"x"⟩, ⟨"p"⟩, ⟨"d"⟩, .named name, ⟨0⟩⟩
    let w : Wiring := ⟨[], [⟨"a", [e "a"]⟩, ⟨"b", [e "b"]⟩], []⟩
    let v : Wiring := ⟨[], [⟨"b", [e "b"]⟩, ⟨"a", [e "a"]⟩], []⟩
    (v.takeOutgoing ⟨"x"⟩).1 ≠ (w.takeOutgoing ⟨"x"⟩).1 := by
  decide

theorem takeOutgoing (hr : w.Rearranged v) (id : EdgeId) :
    (w.takeOutgoing id).2.Rearranged (v.takeOutgoing id).2 :=
  ⟨hr.relationships, (hr.bundles.map _).filter _, hr.incoming⟩

theorem takeIncoming (hr : w.Rearranged v) (id : EdgeId) :
    (v.takeIncoming id).1 = (w.takeIncoming id).1 ∧
      (w.takeIncoming id).2.Rearranged (v.takeIncoming id).2 := by
  rw [Wiring.takeIncoming, Wiring.takeIncoming, hr.incoming]
  exact ⟨rfl, hr.relationships, hr.bundles, rfl⟩

end Rearranged

end Wiring

namespace Node

variable {n m k : Node} {cs : List Call} {as : List Answer}

def Rearranged (n m : Node) : Prop :=
  ∃ v, n.wiring.Rearranged v ∧ m = { n with wiring := v }

namespace Rearranged

theorem refl (n : Node) : n.Rearranged n :=
  ⟨n.wiring, .refl n.wiring, rfl⟩

theorem trans (h : n.Rearranged m) (g : m.Rearranged k) : n.Rearranged k := by
  obtain ⟨v, hv, rfl⟩ := h
  obtain ⟨u, hu, rfl⟩ := g
  exact ⟨u, hv.trans hu, rfl⟩

theorem addRelationship (hr : n.Rearranged m) (r : Relationship) :
    (m.addRelationship r).1 = (n.addRelationship r).1 ∧
      (n.addRelationship r).2.Rearranged (m.addRelationship r).2 := by
  obtain ⟨v, hv, rfl⟩ := hr
  rw [Node.addRelationship, Node.addRelationship, hv.declares]
  split
  · exact ⟨rfl, v, hv, rfl⟩
  · exact ⟨rfl, v.declare r, hv.declare r, rfl⟩

theorem attachOutgoing (hr : n.Rearranged m) (h : n.Sound) (e : Edge) :
    (m.call (.attachOutgoing e)).1 = (n.call (.attachOutgoing e)).1 ∧
      (n.call (.attachOutgoing e)).2.Rearranged (m.call (.attachOutgoing e)).2 := by
  obtain ⟨v, hv, rfl⟩ := hr
  rw [call, call, Node.attachOutgoing, Node.attachOutgoing, hv.declares, hv.hasOutgoing]
  have hkept : n.Rearranged { n with wiring := v } := ⟨v, hv, rfl⟩
  split
  · exact ⟨rfl, hkept⟩
  · split
    · exact ⟨rfl, hkept⟩
    · split
      · exact ⟨rfl, hkept⟩
      · exact ⟨rfl, v.addOutgoing e, hv.addOutgoing h.wiring e, rfl⟩

theorem attachIncoming (hr : n.Rearranged m) (e : Edge) :
    (m.call (.attachIncoming e)).1 = (n.call (.attachIncoming e)).1 ∧
      (n.call (.attachIncoming e)).2.Rearranged (m.call (.attachIncoming e)).2 := by
  obtain ⟨v, hv, rfl⟩ := hr
  rw [call, call, Node.attachIncoming, Node.attachIncoming, hv.hasIncoming]
  have hkept : n.Rearranged { n with wiring := v } := ⟨v, hv, rfl⟩
  split
  · exact ⟨rfl, hkept⟩
  · split
    · exact ⟨rfl, hkept⟩
    · exact ⟨rfl, v.addIncoming e, hv.addIncoming e, rfl⟩

theorem detachOutgoing (hr : n.Rearranged m) (h : n.Sound) (id : EdgeId) :
    (m.detachOutgoing id).1 = (n.detachOutgoing id).1 ∧
      (n.detachOutgoing id).2.Rearranged (m.detachOutgoing id).2 := by
  obtain ⟨v, hv, rfl⟩ := hr
  exact ⟨hv.taken h.wiring id, (v.takeOutgoing id).2, hv.takeOutgoing id, rfl⟩

theorem detach (hr : n.Rearranged m) (h : n.Sound) (id : EdgeId) :
    (m.detach id).1 = (n.detach id).1 ∧ (n.detach id).2.Rearranged (m.detach id).2 := by
  obtain ⟨v, hv, rfl⟩ := hr
  have hout := hv.taken h.wiring id
  have hback := (hv.takeIncoming id).1
  have hafter := ((hv.takeOutgoing id).takeIncoming id).2
  exact ⟨congrArg₂ Option.or hout hback, _, hafter, rfl⟩

theorem call (hr : n.Rearranged m) (h : n.Sound) (c : Call) :
    (m.call c).1 = (n.call c).1 ∧ (n.call c).2.Rearranged (m.call c).2 := by
  cases c with
  | addRelationship r => exact (hr.addRelationship r).imp_left (congrArg Answer.declared)
  | attachOutgoing e => exact hr.attachOutgoing h e
  | attachIncoming e => exact hr.attachIncoming e
  | detach id => exact (hr.detach h id).imp_left (congrArg Answer.taken)
  | detachOutgoing id => exact (hr.detachOutgoing h id).imp_left (congrArg Answer.taken)

end Rearranged

/-- Calls on a node and what it answered. The order of its bundles is open: before every call, and after
the last, it may have become another one. Connecting and disconnecting are such calls on both ends. -/
inductive ShuffledCalls : Node → List Call → List Answer → Node → Prop
  | done {n m : Node} (h : n.Rearranged m) : ShuffledCalls n [] [] m
  | call {n m k : Node} {c : Call} {cs : List Call} {as : List Answer} (h : n.Rearranged m)
    (rest : ShuffledCalls (m.call c).2 cs as k) : ShuffledCalls n (c :: cs) ((m.call c).1 :: as) k

theorem ShuffledCalls.rearranged (hc : m.ShuffledCalls cs as k) (h : n.Sound) (hr : n.Rearranged m) :
    as = (n.calls cs).1 ∧ (n.calls cs).2.Rearranged k := by
  induction hc generalizing n with
  | done hlast => exact ⟨rfl, hr.trans hlast⟩
  | @call m m' k c cs as hshuffle _ ih =>
    obtain ⟨hanswer, hafter⟩ := (hr.trans hshuffle).call h c
    obtain ⟨hanswers, hend⟩ := ih (sound_call h c) hafter
    rw [calls, hanswer, hanswers]
    exact ⟨rfl, hend⟩

theorem ShuffledCalls.sound (hc : n.ShuffledCalls cs as m) (h : n.Sound) : m.wiring.Sound := by
  obtain ⟨_, v, hv, rfl⟩ := hc.rearranged h (.refl n)
  exact hv.sound (sound_calls h cs).wiring

theorem removal_ignores_order {s : NodeSpec} (hn : (ofSpec s).ShuffledCalls cs as n) {v : Wiring}
    (hv : n.wiring.Rearranged v) (id : EdgeId) :
    let taken := v.takeOutgoing id
    as = ((ofSpec s).calls cs).1 ∧
      taken.1 = (n.wiring.takeOutgoing id).1 ∧
      (n.wiring.takeOutgoing id).2.Rearranged taken.2 ∧
      v.attached.Perm (taken.1.toList ++ taken.2.attached) ∧
      (∀ name, taken.2.group? name = ((v.group? name).map (·.filter (·.id ≠ id))).filter (· ≠ [])) ∧
      (v.hasOutgoing id = true ↔ taken.1.isSome = true) ∧
      taken.2.hasOutgoing id = false := by
  dsimp only
  have h := hn.sound (sound_ofSpec s)
  have hvs := hv.sound h
  have hanswers := (hn.rearranged (sound_ofSpec s) (.refl _)).1
  exact ⟨hanswers, hv.taken h id, hv.takeOutgoing id, Wiring.perm_takeOutgoing hvs id,
    Wiring.group?_takeOutgoing hvs id, Wiring.hasOutgoing_iff_taken hvs id,
    Wiring.hasOutgoing_takeOutgoing hvs id⟩

def forkedSpec : NodeSpec :=
  { NodeSpec.blank with id := ⟨"p"⟩, relationships := [.named "a", .named "b"] }

def forkedEdge (id relationship : String) : Edge :=
  ⟨⟨id⟩, ⟨"p"⟩, ⟨"d"⟩, .named relationship, ⟨0⟩⟩

def forkedCalls : List Call :=
  [.attachOutgoing (forkedEdge "x" "a"), .attachOutgoing (forkedEdge "y" "b"),
    .attachOutgoing (forkedEdge "z" "a")]

def forked : Node :=
  { ofSpec forkedSpec with wiring :=
      ⟨forkedSpec.relationships,
        [⟨"b", [forkedEdge "y" "b"]⟩, ⟨"a", [forkedEdge "x" "a", forkedEdge "z" "a"]⟩], []⟩ }

theorem forked_loses_bundle :
    let v := { forked.wiring with bundles := forked.wiring.bundles.reverse }
    (ofSpec forkedSpec).ShuffledCalls forkedCalls [.attached, .attached, .attached] forked ∧
      forked.wiring.Rearranged v ∧
      (v.takeOutgoing ⟨"y"⟩).1 = some (forkedEdge "y" "b") ∧
      (v.takeOutgoing ⟨"y"⟩).2.group? "b" = none ∧
      (v.takeOutgoing ⟨"x"⟩).2.group? "a" = some [forkedEdge "z" "a"] := by
  dsimp only
  have hcalls : (ofSpec forkedSpec).ShuffledCalls forkedCalls [.attached, .attached, .attached] forked := by
    -- the two bundles change places before the third call
    have hturn : ((ofSpec forkedSpec).calls (forkedCalls.take 2)).2.wiring.Rearranged
        ⟨forkedSpec.relationships, [⟨"b", [forkedEdge "y" "b"]⟩, ⟨"a", [forkedEdge "x" "a"]⟩], []⟩ :=
      ⟨rfl, .swap _ _ _, rfl⟩
    apply ShuffledCalls.call (.refl _)
    apply ShuffledCalls.call (.refl _)
    apply ShuffledCalls.call ⟨_, hturn, rfl⟩
    exact .done (.refl forked)
  have hv : forked.wiring.Rearranged { forked.wiring with bundles := forked.wiring.bundles.reverse } :=
    ⟨rfl, List.reverse_perm _, rfl⟩
  obtain ⟨_, htaken, _, _, hgroup, _⟩ := removal_ignores_order hcalls hv ⟨"y"⟩
  obtain ⟨_, _, _, _, hgroup', _⟩ := removal_ignores_order hcalls hv ⟨"x"⟩
  refine ⟨hcalls, hv, ?_, ?_, ?_⟩
  · rw [htaken]
    decide
  · rw [hgroup]
    decide
  · rw [hgroup']
    decide

end Node

end FlowAdmission
