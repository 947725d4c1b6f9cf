import FlowAdmission.Graph.Wiring
import FlowAdmission.Proofs.Keys

namespace FlowAdmission

namespace Edge

theorem hasId_iff (id : EdgeId) (e : Edge) : hasId id e = true ↔ e.id = id := by
  simp [hasId]

theorem not_hasId {id : EdgeId} {es : List Edge} (h : ∀ e ∈ es, e.id ≠ id) : ∀ e ∈ es, ¬ hasId id e = true := by
  intro e he
  rw [hasId_iff]
  exact h e he

theorem find?_hasId {es : List Edge} (h : (es.map Edge.id).Nodup) (id : EdgeId) (e : Edge) :
    es.find? (hasId id) = some e ↔ e ∈ es ∧ e.id = id :=
  Keyed.get?_iff h

theorem eraseP_hasId {es : List Edge} (h : (es.map Edge.id).Nodup) (id : EdgeId) :
    es.eraseP (hasId id) = es.filter (·.id ≠ id) := by
  induction es with
  | nil => rfl
  | cons e es ih =>
    rw [List.map_cons, List.nodup_cons] at h
    by_cases he : e.id = id
    · have hrest : ∀ x ∈ es, x.id ≠ id := by
        intro x hx hid
        exact h.1 (List.mem_map.mpr ⟨x, hx, hid.trans he.symm⟩)
      rw [List.eraseP_cons_of_pos ((hasId_iff id e).mpr he), List.filter_cons_of_neg (by simpa using he),
        List.filter_eq_self.mpr (by simpa using hrest)]
    · rw [List.eraseP_cons_of_neg (mt (hasId_iff id e).mp he), List.filter_cons_of_pos (by simpa using he),
        ih h.2]

end Edge

namespace Bundle

structure Sound (b : Bundle) : Prop where
  filled : b.edges ≠ []
  sorted : ∀ e ∈ b.edges, e.relationship.name = b.relationship

theorem attach_cons (e : Edge) (b : Bundle) (bs : List Bundle) : attach e (b :: bs) =
    if b.relationship == e.relationship.name then b.append e :: bs else b :: attach e bs :=
  rfl

theorem attach_sound (e : Edge) (bs : List Bundle) (h : ∀ b ∈ bs, b.Sound) :
    ∀ b ∈ attach e bs, b.Sound := by
  apply Keyed.forall_entry
  · exact ⟨by simp [append], by simp [append]⟩
  · intro b hb hname
    refine ⟨by simp [append], ?_⟩
    intro x hx
    rcases List.mem_append.mp hx with hx | hx
    · exact (h b hb).sorted x hx
    · rw [List.mem_singleton.mp hx]
      exact hname.symm
  · exact h

theorem attach_relationships (e : Edge) (bs : List Bundle) :
    (attach e bs).map relationship =
      if e.relationship.name ∈ bs.map relationship then bs.map relationship
      else bs.map relationship ++ [e.relationship.name] := by
  apply Keyed.keys_entry
  · rfl
  · intro b
    rfl

theorem attach_edges (e : Edge) (bs : List Bundle) :
    ((attach e bs).flatMap edges).Perm (e :: bs.flatMap edges) := by
  induction bs with
  | nil => exact .refl _
  | cons b bs ih =>
    rw [attach_cons]
    split
    · rw [List.flatMap_cons, List.flatMap_cons, append, List.append_assoc]
      exact List.perm_middle
    · rw [List.flatMap_cons, List.flatMap_cons]
      exact (ih.append_left b.edges).trans List.perm_middle

theorem without_of_absent {id : EdgeId} {b : Bundle} (h : ∀ e ∈ b.edges, e.id ≠ id) :
    b.without id = b := by
  rw [without, List.eraseP_of_forall_not (Edge.not_hasId h)]

theorem without_bundles {id : EdgeId} {bs : List Bundle} (h : ∀ b ∈ bs, b.Sound)
    (hid : ∀ b ∈ bs, ∀ e ∈ b.edges, e.id ≠ id) :
    (bs.map (without id)).filter (!·.edges.isEmpty) = bs := by
  have hmap : bs.map (without id) = bs :=
    (List.map_congr_left (fun b hb => without_of_absent (hid b hb))).trans (List.map_id bs)
  rw [hmap, List.filter_eq_self]
  intro b hb
  simpa using (h b hb).filled

theorem attach_without (e : Edge) {bs : List Bundle} (h : ∀ b ∈ bs, b.Sound)
    (hid : ∀ b ∈ bs, ∀ x ∈ b.edges, x.id ≠ e.id) :
    ((attach e bs).map (without e.id)).filter (!·.edges.isEmpty) = bs := by
  have he : Edge.hasId e.id e = true := (Edge.hasId_iff e.id e).mpr rfl
  induction bs with
  | nil =>
    -- the bundle was made for the edge and goes with it
    simp [attach, Keyed.entry, append, without, he]
  | cons b bs ih =>
    rw [List.forall_mem_cons] at h hid
    have hb : (!b.edges.isEmpty) = true := by simpa using h.1.filled
    have hkeep (cs : List Bundle) : (b :: cs).filter (!·.edges.isEmpty) = b :: cs.filter (!·.edges.isEmpty) :=
      List.filter_cons_of_pos hb
    rw [attach_cons]
    split
    · have hback : without e.id (b.append e) = b := by
        rw [without, append, List.eraseP_append_right _ (Edge.not_hasId hid.1), List.eraseP_cons_of_pos he,
          List.append_nil]
      rw [List.map_cons, hback, hkeep, without_bundles h.2 hid.2]
    · rw [List.map_cons, without_of_absent hid.1, hkeep, ih h.2 hid.2]

theorem filter_edges (bs : List Bundle) :
    (bs.filter (!·.edges.isEmpty)).flatMap edges = bs.flatMap edges := by
  induction bs with
  | nil => rfl
  | cons b bs ih =>
    by_cases hb : b.edges = []
    · simp [hb, ih]
    · simp [hb, ih]

end Bundle

namespace Wiring

variable {w : Wiring}

/-- All outgoing edges, bundle by bundle, whether or not their relationship is declared. -/
def attached (w : Wiring) : List Edge :=
  w.bundles.flatMap (·.edges)

structure Sound (w : Wiring) : Prop where
  names : (w.relationships.map (·.name)).Nodup
  bundles : ∀ b ∈ w.bundles, b.Sound
  declared : ∀ b ∈ w.bundles, w.declares b.relationship
  distinct : (w.bundles.map (·.relationship)).Nodup
  outgoingIds : (w.attached.map (·.id)).Nodup
  incomingIds : (w.incoming.map (·.id)).Nodup

theorem declares_iff (w : Wiring) (name : String) :
    w.declares name = true ↔ name ∈ w.relationships.map (·.name) := by
  simp [declares]

theorem hasOutgoing_iff (w : Wiring) (id : EdgeId) :
    w.hasOutgoing id = true ↔ ∃ e ∈ w.attached, e.id = id := by
  simp only [hasOutgoing, List.any_eq_true, Edge.hasId_iff, attached, List.mem_flatMap]
  constructor
  · rintro ⟨b, hb, e, he, hid⟩
    exact ⟨e, ⟨b, hb, he⟩, hid⟩
  · rintro ⟨e, ⟨b, hb, he⟩, hid⟩
    exact ⟨b, hb, e, he, hid⟩

theorem hasIncoming_iff (w : Wiring) (id : EdgeId) :
    w.hasIncoming id = true ↔ ∃ e ∈ w.incoming, e.id = id := by
  simp only [hasIncoming, List.any_eq_true, Edge.hasId_iff]

theorem hasOutgoing_eq_false (w : Wiring) (id : EdgeId) :
    w.hasOutgoing id = false ↔ ∀ e ∈ w.attached, e.id ≠ id := by
  rw [← Bool.not_eq_true, hasOutgoing_iff]
  push Not
  rfl

theorem hasIncoming_eq_false (w : Wiring) (id : EdgeId) :
    w.hasIncoming id = false ↔ ∀ e ∈ w.incoming, e.id ≠ id := by
  rw [← Bool.not_eq_true, hasIncoming_iff]
  push Not
  rfl

theorem edgesOf_eq (h : w.Sound) (name : String) :
    w.edgesOf name = w.attached.filter (·.relationship.name = name) := by
  obtain ⟨rs, bs, incoming⟩ := w
  have hs := h.bundles
  have hd := h.distinct
  clear h
  simp only [edgesOf, attached] at *
  induction bs with
  | nil => rfl
  | cons b bs ih =>
    rw [List.forall_mem_cons] at hs
    rw [List.map_cons, List.nodup_cons] at hd
    rw [List.flatMap_cons, List.filter_append]
    by_cases hb : b.relationship = name
    · -- the bundle is the one looked for, and no later one has its name
      have hown : b.edges.filter (·.relationship.name = name) = b.edges := by
        rw [List.filter_eq_self]
        intro e he
        simpa [hb] using hs.1.sorted e he
      have hrest : (bs.flatMap (·.edges)).filter (·.relationship.name = name) = [] := by
        rw [List.filter_eq_nil_iff]
        intro e he hn
        obtain ⟨c, hc, hec⟩ := List.mem_flatMap.mp he
        have hcn := (hs.2 c hc).sorted e hec
        exact hd.1 (List.mem_map.mpr ⟨c, hc, by rw [hb, ← hcn]; simpa using hn⟩)
      rw [Keyed.get?_of_key hb, hown, hrest, List.append_nil]
      rfl
    · have hown : b.edges.filter (·.relationship.name = name) = [] := by
        rw [List.filter_eq_nil_iff]
        intro e he hn
        exact hb ((hs.1.sorted e he).symm.trans (by simpa using hn))
      rw [Keyed.get?_of_other hb, hown, List.nil_append]
      exact ih hs.2 hd.2

theorem mem_edgesOf (h : w.Sound) {name : String} {e : Edge} :
    e ∈ w.edgesOf name ↔ e ∈ w.attached ∧ e.relationship.name = name := by
  rw [edgesOf_eq h, List.mem_filter, decide_eq_true_eq]

theorem mem_attached_declared (h : w.Sound) {e : Edge} (he : e ∈ w.attached) :
    w.declares e.relationship.name = true := by
  obtain ⟨b, hb, heb⟩ := List.mem_flatMap.mp he
  rw [(h.bundles b hb).sorted e heb]
  exact h.declared b hb

theorem outgoing_eq (w : Wiring) :
    w.outgoing = w.relationships.flatMap (fun r => w.edgesOf r.name) := by
  rw [outgoing, outlets, List.flatMap_def]

theorem mem_outgoing (h : w.Sound) {e : Edge} : e ∈ w.outgoing ↔ e ∈ w.attached := by
  rw [outgoing_eq, List.mem_flatMap]
  constructor
  · rintro ⟨r, _, he⟩
    exact ((mem_edgesOf h).mp he).1
  · intro he
    obtain ⟨r, hr, hn⟩ := List.mem_map.mp ((declares_iff w _).mp (mem_attached_declared h he))
    exact ⟨r, hr, (mem_edgesOf h).mpr ⟨he, hn.symm⟩⟩

theorem outgoing_perm (h : w.Sound) : w.outgoing.Perm w.attached := by
  have ha : w.attached.Nodup := h.outgoingIds.of_map _
  have ho : w.outgoing.Nodup := by
    rw [outgoing_eq, List.nodup_flatMap]
    constructor
    · intro r _
      rw [edgesOf_eq h]
      exact ha.filter _
    · refine (List.pairwise_map.mp h.names).imp ?_
      intro r s hrs e her hes
      exact hrs (((mem_edgesOf h).mp her).2.symm.trans ((mem_edgesOf h).mp hes).2)
  rw [List.perm_ext_iff_of_nodup ho ha]
  intro e
  exact mem_outgoing h

theorem sound_ofRelationships {rs : List Relationship} (h : (rs.map (·.name)).Nodup) :
    (ofRelationships rs).Sound where
  names := h
  bundles := by simp [ofRelationships]
  declared := by simp [ofRelationships]
  distinct := List.nodup_nil
  outgoingIds := List.nodup_nil
  incomingIds := List.nodup_nil

theorem sound_declare (h : w.Sound) {r : Relationship} (hr : w.declares r.name = false) :
    (w.declare r).Sound := by
  have hnew : r.name ∉ w.relationships.map (·.name) := by
    rw [← declares_iff, hr]
    exact Bool.false_ne_true
  refine { h with names := ?_, declared := ?_ }
  · rw [declare, List.map_append]
    exact h.names.append (List.nodup_singleton _) (by simpa using hnew)
  · intro b hb
    rw [declares_iff, declare, List.map_append]
    exact List.mem_append_left _ ((declares_iff w _).mp (h.declared b hb))

theorem attached_addOutgoing (w : Wiring) (e : Edge) :
    (w.addOutgoing e).attached.Perm (e :: w.attached) :=
  Bundle.attach_edges e w.bundles

theorem edgesOf_addOutgoing (w : Wiring) (e : Edge) (name : String) :
    (w.addOutgoing e).edgesOf name =
      w.edgesOf name ++ (if name = e.relationship.name then [e] else []) := by
  have hentry : Keyed.get? Bundle.relationship name (w.addOutgoing e).bundles =
      if name = e.relationship.name
      then some (((Keyed.get? Bundle.relationship e.relationship.name w.bundles).getD
        ⟨e.relationship.name, []⟩).append e)
      else Keyed.get? Bundle.relationship name w.bundles := by
    apply Keyed.get?_entry
    · rfl
    · intro b
      rfl
  rw [edgesOf, hentry, edgesOf]
  by_cases hn : name = e.relationship.name
  · rw [if_pos hn, if_pos hn, hn]
    cases Keyed.get? Bundle.relationship e.relationship.name w.bundles <;> rfl
  · rw [if_neg hn, if_neg hn, List.append_nil]

theorem sound_addOutgoing (h : w.Sound) {e : Edge} (hd : w.declares e.relationship.name = true)
    (hid : w.hasOutgoing e.id = false) : (w.addOutgoing e).Sound := by
  have hnames : ∀ b ∈ (w.addOutgoing e).bundles, b.relationship ∈ w.bundles.map (·.relationship) ∨
      b.relationship = e.relationship.name := by
    intro b hb
    have hm : b.relationship ∈ (Bundle.attach e w.bundles).map (·.relationship) :=
      List.mem_map_of_mem hb
    rw [Bundle.attach_relationships] at hm
    split at hm
    · exact .inl hm
    · simpa using hm
  refine { h with bundles := Bundle.attach_sound e w.bundles h.bundles, declared := ?_, distinct := ?_,
                  outgoingIds := ?_ }
  · intro b hb
    rcases hnames b hb with hm | he
    · obtain ⟨c, hc, hcb⟩ := List.mem_map.mp hm
      exact hcb ▸ h.declared c hc
    · exact he ▸ hd
  · rw [addOutgoing, Bundle.attach_relationships]
    split
    · exact h.distinct
    · rename_i hnew
      exact h.distinct.append (List.nodup_singleton _) (by simpa using hnew)
  · rw [((attached_addOutgoing w e).map _).nodup_iff, List.map_cons, List.nodup_cons]
    refine ⟨?_, h.outgoingIds⟩
    intro hm
    obtain ⟨x, hx, hxid⟩ := List.mem_map.mp hm
    exact (hasOutgoing_eq_false w e.id).mp hid x hx hxid

theorem sound_addIncoming (h : w.Sound) {e : Edge} (hid : w.hasIncoming e.id = false) :
    (w.addIncoming e).Sound := by
  refine { h with incomingIds := ?_ }
  rw [addIncoming, List.map_append]
  refine h.incomingIds.append (List.nodup_singleton _) ?_
  rw [List.map_singleton, List.disjoint_singleton]
  intro hm
  obtain ⟨x, hx, hxid⟩ := List.mem_map.mp hm
  exact (hasIncoming_eq_false w e.id).mp hid x hx hxid

theorem bundle_ids (h : w.Sound) {b : Bundle} (hb : b ∈ w.bundles) : (b.edges.map (·.id)).Nodup := by
  have hsub : b.edges.Sublist w.attached := by
    rw [attached, List.flatMap_def]
    exact List.sublist_flatten_of_mem (List.mem_map_of_mem hb)
  exact h.outgoingIds.sublist (hsub.map _)

theorem attached_takeOutgoing (h : w.Sound) (id : EdgeId) :
    (w.takeOutgoing id).2.attached = w.attached.filter (·.id ≠ id) := by
  rw [attached, takeOutgoing, Bundle.filter_edges, List.flatMap_map, attached, List.filter_flatMap]
  apply List.flatMap_congr
  intro b hb
  exact Edge.eraseP_hasId (bundle_ids h hb) id

theorem sound_takeOutgoing (h : w.Sound) (id : EdgeId) : (w.takeOutgoing id).2.Sound := by
  have hfrom : ∀ c ∈ (w.takeOutgoing id).2.bundles,
      c.edges ≠ [] ∧ ∃ b ∈ w.bundles, b.without id = c := by
    intro c hc
    obtain ⟨hm, hne⟩ := List.mem_filter.mp hc
    exact ⟨by simpa using hne, List.mem_map.mp hm⟩
  refine { h with bundles := ?_, declared := ?_, distinct := ?_, outgoingIds := ?_ }
  · intro c hc
    obtain ⟨hne, b, hb, rfl⟩ := hfrom c hc
    exact ⟨hne, fun e he => (h.bundles b hb).sorted e (List.mem_of_mem_eraseP he)⟩
  · intro c hc
    obtain ⟨_, b, hb, rfl⟩ := hfrom c hc
    exact h.declared b hb
  · have hsub : ((w.takeOutgoing id).2.bundles.map (·.relationship)).Sublist
        ((w.bundles.map (Bundle.without id)).map (·.relationship)) := List.filter_sublist.map _
    rw [List.map_map] at hsub
    exact h.distinct.sublist hsub
  · rw [attached_takeOutgoing h]
    exact h.outgoingIds.sublist (List.filter_sublist.map _)

theorem takeOutgoing_fst (h : w.Sound) (id : EdgeId) (e : Edge) :
    (w.takeOutgoing id).1 = some e ↔ e ∈ w.attached ∧ e.id = id := by
  have hhit : ∀ x ∈ w.bundles.filterMap (·.edges.find? (Edge.hasId id)), x ∈ w.attached ∧ x.id = id := by
    intro x hx
    obtain ⟨b, hb, hf⟩ := List.mem_filterMap.mp hx
    obtain ⟨hxb, hid⟩ := (Edge.find?_hasId (bundle_ids h hb) id x).mp hf
    exact ⟨List.mem_flatMap.mpr ⟨b, hb, hxb⟩, hid⟩
  constructor
  · intro hl
    exact hhit e (List.mem_of_getLast? hl)
  · rintro ⟨he, hid⟩
    obtain ⟨b, hb, heb⟩ := List.mem_flatMap.mp he
    have hmem : e ∈ w.bundles.filterMap (·.edges.find? (Edge.hasId id)) :=
      List.mem_filterMap.mpr ⟨b, hb, (Edge.find?_hasId (bundle_ids h hb) id e).mpr ⟨heb, hid⟩⟩
    -- every hit is the one edge with the id, so the last one is
    obtain ⟨x, hx⟩ := List.getLast?_isSome.mpr (List.ne_nil_of_mem hmem) |> Option.isSome_iff_exists.mp
    obtain ⟨hxw, hxid⟩ := hhit x (List.mem_of_getLast? hx)
    rw [takeOutgoing, hx, List.inj_on_of_nodup_map h.outgoingIds hxw he (hxid.trans hid.symm)]

theorem edgesOf_takeOutgoing (h : w.Sound) (id : EdgeId) (name : String) :
    (w.takeOutgoing id).2.edgesOf name = (w.edgesOf name).filter (·.id ≠ id) := by
  rw [edgesOf_eq (sound_takeOutgoing h id), edgesOf_eq h, attached_takeOutgoing h, List.filter_comm]

theorem bundles_absent {id : EdgeId} (hid : w.hasOutgoing id = false) :
    ∀ b ∈ w.bundles, ∀ e ∈ b.edges, e.id ≠ id := by
  intro b hb e he
  exact (hasOutgoing_eq_false w id).mp hid e (List.mem_flatMap.mpr ⟨b, hb, he⟩)

theorem takeOutgoing_absent (h : w.Sound) {id : EdgeId} (hid : w.hasOutgoing id = false) :
    w.takeOutgoing id = (none, w) := by
  have hfst : (w.takeOutgoing id).1 = none := by
    rw [Option.eq_none_iff_forall_ne_some]
    intro e he
    obtain ⟨hm, heid⟩ := (takeOutgoing_fst h id e).mp he
    exact (hasOutgoing_eq_false w id).mp hid e hm heid
  have hsnd : (w.takeOutgoing id).2 = w := by
    rw [takeOutgoing, Bundle.without_bundles h.bundles (bundles_absent hid)]
  exact Prod.ext hfst hsnd

theorem takeOutgoing_addOutgoing (h : w.Sound) {e : Edge} (hd : w.declares e.relationship.name = true)
    (hid : w.hasOutgoing e.id = false) : (w.addOutgoing e).takeOutgoing e.id = (some e, w) := by
  have hfst : ((w.addOutgoing e).takeOutgoing e.id).1 = some e := by
    rw [takeOutgoing_fst (sound_addOutgoing h hd hid), (attached_addOutgoing w e).mem_iff]
    exact ⟨List.mem_cons_self, rfl⟩
  have hsnd : ((w.addOutgoing e).takeOutgoing e.id).2 = w := by
    rw [takeOutgoing, addOutgoing, Bundle.attach_without e h.bundles (bundles_absent hid)]
  exact Prod.ext hfst hsnd

theorem incoming_takeIncoming (h : w.Sound) (id : EdgeId) :
    (w.takeIncoming id).2.incoming = w.incoming.filter (·.id ≠ id) :=
  Edge.eraseP_hasId h.incomingIds id

theorem sound_takeIncoming (h : w.Sound) (id : EdgeId) : (w.takeIncoming id).2.Sound := by
  refine { h with incomingIds := ?_ }
  rw [incoming_takeIncoming h]
  exact h.incomingIds.sublist (List.filter_sublist.map _)

theorem takeIncoming_absent {id : EdgeId} (hid : w.hasIncoming id = false) :
    w.takeIncoming id = (none, w) := by
  have habs := Edge.not_hasId ((hasIncoming_eq_false w id).mp hid)
  rw [takeIncoming, List.find?_eq_none.mpr habs, List.eraseP_of_forall_not habs]

theorem takeIncoming_addIncoming {e : Edge} (hid : w.hasIncoming e.id = false) :
    (w.addIncoming e).takeIncoming e.id = (some e, w) := by
  have he : Edge.hasId e.id e = true := (Edge.hasId_iff e.id e).mpr rfl
  have habs := Edge.not_hasId ((hasIncoming_eq_false w e.id).mp hid)
  rw [takeIncoming, addIncoming, List.find?_append, List.find?_eq_none.mpr habs,
    List.eraseP_append_right _ habs, List.eraseP_cons_of_pos he, List.append_nil, List.find?_cons_of_pos he]
  rfl

end Wiring

end FlowAdmission
