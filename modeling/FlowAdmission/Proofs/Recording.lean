import FlowAdmission.Proofs.Shifts

namespace FlowAdmission

namespace Recorder

variable (r : Recorder) (node id : String)

def gauge? : Option Double :=
  (r.find? node).map Series.pollable

theorem find?_update {change : Series → Series} (hc : ∀ s, (change s).node = s.node) :
    (r.update node change).find? id = if id = node then (r.find? node).map change else r.find? id :=
  Keyed.get?_amend hc id r.series

theorem find?_register : (r.register node).find? id =
    if id = node then some ((r.find? node).getD ⟨node, 0, 0, .zero, 0⟩) else r.find? id := by
  apply Keyed.get?_entry
  · rfl
  · intro s
    rfl

theorem gauge?_update (write : Double → Double) {change : Series → Series}
    (hc : ∀ s, (change s).node = s.node) (hw : ∀ s, (change s).pollable = write s.pollable) :
    (r.update node change).gauge? id =
      if id = node then (r.gauge? id).map write else r.gauge? id := by
  rw [gauge?, find?_update r node id hc, gauge?]
  by_cases hid : id = node
  · have hwrite : Series.pollable ∘ change = write ∘ Series.pollable := funext hw
    rw [if_pos hid, if_pos hid, hid, Option.map_map, Option.map_map, hwrite]
  · rw [if_neg hid, if_neg hid]

theorem gauge?_update_kept {change : Series → Series} (hc : ∀ s, (change s).node = s.node)
    (hk : ∀ s, (change s).pollable = s.pollable) : (r.update node change).gauge? id = r.gauge? id := by
  rw [gauge?_update r node id (fun d => d) hc hk, Option.map_id', ite_self]

theorem gauge?_engage : (r.engage node).gauge? id = r.gauge? id :=
  gauge?_update_kept r node id (fun _ => rfl) (fun _ => rfl)

theorem gauge?_adjust : (r.adjust node).gauge? id = r.gauge? id :=
  gauge?_update_kept r node id (fun _ => rfl) (fun _ => rfl)

theorem gauge?_setPollable (count : UInt64) : (r.setPollable node count).gauge? id =
    if id = node then (r.gauge? id).map (fun _ => (Double.ofNat? count.toNat).getD .zero)
    else r.gauge? id := by
  apply gauge?_update
  · intro s
    rfl
  · intro s
    rfl

theorem gauge?_register (h : (r.gauge? id).isSome) : (r.register node).gauge? id = r.gauge? id := by
  rw [gauge?, find?_register, gauge?]
  split
  · rename_i hid
    obtain ⟨s, hs⟩ := Option.isSome_iff_exists.mp (Option.isSome_map ▸ h : (r.find? id).isSome)
    rw [← hid, hs]
    rfl
  · rfl

theorem isSome_gauge?_register : ((r.register node).gauge? node).isSome := by
  rw [gauge?, find?_register, if_pos rfl]
  rfl

end Recorder

namespace Meter

variable (m : Meter) (r : Recorder) (id : String)

theorem gauge?_engage : (m.engage r).gauge? id = r.gauge? id := by
  rw [engage]
  split
  · exact Recorder.gauge?_engage r m.node id
  · rfl

theorem gauge?_adjust : (m.adjust r).gauge? id = r.gauge? id := by
  rw [adjust]
  split
  · exact Recorder.gauge?_adjust r m.node id
  · rfl

theorem setPollable_meter (count : UInt64) : (m.setPollable r count).2.1 = { m with last := count } := by
  rw [setPollable]
  split
  · rename_i h
    rw [← h]
  · rfl

theorem gauge?_setPollable (count : UInt64) : (m.setPollable r count).2.2.gauge? id =
    if m.recording = true ∧ m.last ≠ count ∧ id = m.node
    then (r.gauge? id).map (fun _ => (Double.ofNat? count.toNat).getD .zero)
    else r.gauge? id := by
  rw [setPollable]
  by_cases hlast : m.last = count
  · simp [hlast]
  · cases hr : m.recording with
    | true => simp [hlast, Recorder.gauge?_setPollable]
    | false => simp [hlast]

end Meter

namespace Flow

variable {f g : Flow} {w : Worker}

structure Keeps (f g : Flow) : Prop where
  names : f.names ≤ g.names
  id : ∀ n : Key Node, n.number < f.names → (g.nodes n).id = (f.nodes n).id
  meter : ∀ m : Key Meter, m.number < f.names → g.meters m = f.meters m
  gauge : ∀ node, (f.recorder.gauge? node).isSome → g.recorder.gauge? node = f.recorder.gauge? node

namespace Keeps

theorem of_frame (hnames : f.names ≤ g.names) (hnodes : g.nodes = f.nodes) (hmeters : g.meters = f.meters)
    (hrecorder : g.recorder = f.recorder) : f.Keeps g :=
  ⟨hnames, fun _ _ => by rw [hnodes], fun _ _ => by rw [hmeters], fun _ _ => by rw [hrecorder]⟩

theorem refl (f : Flow) : f.Keeps f :=
  of_frame (Nat.le_refl f.names) rfl rfl rfl

theorem trans {h : Flow} (hfg : f.Keeps g) (hgh : g.Keeps h) : f.Keeps h where
  names := Nat.le_trans hfg.names hgh.names
  id n hn := (hgh.id n (Nat.lt_of_lt_of_le hn hfg.names)).trans (hfg.id n hn)
  meter m hm := (hgh.meter m (Nat.lt_of_lt_of_le hm hfg.names)).trans (hfg.meter m hm)
  gauge node h := by
    have hg := hfg.gauge node h
    exact (hgh.gauge node (hg ▸ h)).trans hg

end Keeps

theorem keeps_act (f : Flow) (a : Action) : f.Keeps (f.act a) := by
  obtain ⟨hnames, hframe⟩ := act_frame f a
  have hmeters : (f.act a).meters = f.meters := (congrArg Flow.meters hframe :)
  have hrecorder : (f.act a).recorder = f.recorder := (congrArg Flow.recorder hframe :)
  refine ⟨?_, fun n => id_act f a, fun m _ => congrFun hmeters m, fun _ _ => by rw [hrecorder]⟩
  rw [hnames]
  exact Nat.le_add_right f.names a.made

theorem keeps_addMeter (f : Flow) (node : String) (recording : Bool) :
    f.Keeps (f.addMeter node recording).2 where
  names := Nat.le_succ f.names
  id _ _ := rfl
  meter m hm := by
    apply Store.set_other
    rintro rfl
    exact Nat.lt_irrefl _ hm
  gauge id h := by
    cases recording with
    | true => exact Recorder.gauge?_register f.recorder node id h
    | false => rfl

def prepared (f : Flow) (shared : Shared) : Flow :=
  let f := if shared.rotation.isSome then f else (f.addRotation ⟨0⟩).2
  let f := if shared.ledger.isSome then f else f.addLedger.2
  if shared.sequence.isSome then f else (f.addSequence ⟨0⟩).2

theorem keeps_prepared (f : Flow) (shared : Shared) : f.Keeps (f.prepared shared) := by
  have hgiven (given : Bool) {g h : Flow} (hmade : g.Keeps h) : g.Keeps (if given then g else h) := by
    cases given with
    | true => exact Keeps.refl g
    | false => exact hmade
  have hrotation (g : Flow) : g.Keeps (g.addRotation ⟨0⟩).2 := .of_frame (Nat.le_succ g.names) rfl rfl rfl
  have hledger (g : Flow) : g.Keeps g.addLedger.2 := .of_frame (Nat.le_succ g.names) rfl rfl rfl
  have hsequence (g : Flow) : g.Keeps (g.addSequence ⟨0⟩).2 := .of_frame (Nat.le_succ g.names) rfl rfl rfl
  exact ((hgiven _ (hrotation f)).trans (hgiven _ (hledger _))).trans (hgiven _ (hsequence _))

theorem addWorker_prepared (f : Flow) (n : Key Node) (shared : Shared) (recording : Bool) :
    (f.addWorker n shared recording).1.node = n ∧
      (f.addWorker n shared recording).1.meter = ⟨(f.prepared shared).names⟩ ∧
      (f.addWorker n shared recording).2 =
        ((f.prepared shared).addMeter (f.nodes n).id.text recording).2 := by
  obtain ⟨rotation, ledger, sequence⟩ := shared
  cases rotation <;> cases ledger <;> cases sequence <;> exact ⟨rfl, rfl, rfl⟩

theorem keeps_addWorker (f : Flow) (n : Key Node) (shared : Shared) (recording : Bool) :
    f.Keeps (f.addWorker n shared recording).2 := by
  rw [(addWorker_prepared f n shared recording).2.2]
  exact (keeps_prepared f shared).trans (keeps_addMeter _ _ recording)

theorem keeps_adjustCounter (f : Flow) (w : Worker) (name : String) (delta : Int64) :
    f.Keeps (f.adjustCounter w name delta) where
  names := Nat.le_refl f.names
  id _ _ := rfl
  meter _ _ := rfl
  gauge id _ := Meter.gauge?_adjust (f.meters w.meter) f.recorder id

theorem keeps_move (f : Flow) {m : Move} (hm : ∀ w, m ≠ .poll w) : f.Keeps (f.move m) := by
  have hframe {g : Flow} (hnames : g.names = f.names) (hnodes : g.nodes = f.nodes)
      (hmeters : g.meters = f.meters) (hrecorder : g.recorder = f.recorder) : f.Keeps g :=
    Keeps.of_frame (Nat.le_of_eq hnames.symm) hnodes hmeters hrecorder
  cases m with
  | act a => exact keeps_act f a
  | addWorker n shared recording => exact keeps_addWorker f n shared recording
  | addTasks n ledger recording => exact keeps_addWorker f n ⟨none, some ledger, none⟩ recording
  | poll w => exact (hm w rfl).elim
  | advance w => exact hframe rfl rfl rfl rfl
  | nextIndex w => exact hframe rfl rfl rfl rfl
  | adjustCounter w name delta => exact keeps_adjustCounter f w name delta
  | draw w => exact hframe rfl rfl rfl rfl

def reported (f : Flow) (w : Worker) : UInt64 :=
  (f.poll w).1.length.toUInt64

theorem poll_reports (f : Flow) (w : Worker) : ∃ g : Flow, g.names = f.names ∧ g.nodes = f.nodes ∧
    g.meters = f.meters ∧ (∀ id, g.recorder.gauge? id = f.recorder.gauge? id) ∧
    (f.poll w).2 = (g.meterPollable w.meter (f.reported w)).2 := by
  by_cases h : (f.nodes w.node).isRestricted f.isFull = true
  · refine ⟨(f.note [.restricted (f.nodes w.node).id]).meterEngaged w.meter, rfl, rfl, rfl, ?_, ?_⟩
    · exact Meter.gauge?_engage (f.meters w.meter) f.recorder
    · rw [poll, if_pos h]
      rfl
  · refine ⟨f, rfl, rfl, rfl, fun _ => rfl, ?_⟩
    rw [poll, if_neg h]
    rfl

theorem poll_frame (f : Flow) (w : Worker) :
    (f.poll w).2.names = f.names ∧ (f.poll w).2.nodes = f.nodes := by
  obtain ⟨g, hnames, hnodes, _, _, hpoll⟩ := poll_reports f w
  rw [hpoll]
  exact ⟨hnames, hnodes⟩

theorem poll_meters (f : Flow) (w : Worker) : (f.poll w).2.meters =
    f.meters.set w.meter { f.meters w.meter with last := f.reported w } := by
  obtain ⟨g, _, _, hmeters, _, hpoll⟩ := poll_reports f w
  rw [hpoll, meterPollable, ← hmeters, ← Meter.setPollable_meter (g.meters w.meter) g.recorder]

theorem poll_gauge (f : Flow) (w : Worker) (id : String) : (f.poll w).2.recorder.gauge? id =
    if (f.meters w.meter).recording = true ∧ (f.meters w.meter).last ≠ f.reported w ∧
      id = (f.meters w.meter).node
    then (f.recorder.gauge? id).map (fun _ => (Double.ofNat? (f.reported w).toNat).getD .zero)
    else f.recorder.gauge? id := by
  obtain ⟨g, _, _, hmeters, hgauge, hpoll⟩ := poll_reports f w
  rw [hpoll, ← hmeters, ← hgauge]
  exact Meter.gauge?_setPollable (g.meters w.meter) g.recorder id (f.reported w)

structure Metered (f : Flow) (w : Worker) : Prop where
  node : w.node.number < f.names
  meter : w.meter.number < f.names
  id : (f.meters w.meter).node = (f.nodes w.node).id.text
  registered : (f.meters w.meter).recording = true →
    (f.recorder.gauge? (f.nodes w.node).id.text).isSome

theorem Metered.keeps (h : f.Metered w) (hg : f.Keeps g) : g.Metered w where
  node := Nat.lt_of_lt_of_le h.node hg.names
  meter := Nat.lt_of_lt_of_le h.meter hg.names
  id := by rw [hg.meter _ h.meter, hg.id _ h.node, h.id]
  registered hr := by
    rw [hg.meter _ h.meter] at hr
    rw [hg.id _ h.node, hg.gauge _ (h.registered hr)]
    exact h.registered hr

theorem poll_meter (f : Flow) (w : Worker) (m : Key Meter) :
    ((f.poll w).2.meters m).node = (f.meters m).node ∧
      ((f.poll w).2.meters m).recording = (f.meters m).recording := by
  rw [poll_meters]
  by_cases hm : m = w.meter
  · rw [hm, Store.set_same]
    exact ⟨rfl, rfl⟩
  · rw [Store.set_other _ _ hm]
    exact ⟨rfl, rfl⟩

theorem isSome_poll_gauge (f : Flow) (w : Worker) (id : String) :
    ((f.poll w).2.recorder.gauge? id).isSome = (f.recorder.gauge? id).isSome := by
  rw [poll_gauge]
  split
  · exact Option.isSome_map
  · rfl

theorem Metered.poll (h : f.Metered w) (v : Worker) : (f.poll v).2.Metered w := by
  obtain ⟨hnames, hnodes⟩ := poll_frame f v
  obtain ⟨hnode, hrecording⟩ := poll_meter f v w.meter
  constructor
  · rw [hnames]
    exact h.node
  · rw [hnames]
    exact h.meter
  · rw [hnode, hnodes]
    exact h.id
  · rw [hrecording, hnodes, isSome_poll_gauge]
    exact h.registered

theorem metered_addMeter (hw : w.node.number < f.names) (hm : w.meter = ⟨f.names⟩) (recording : Bool) :
    (f.addMeter (f.nodes w.node).id.text recording).2.Metered w := by
  have hmeter : (f.addMeter (f.nodes w.node).id.text recording).2.meters w.meter =
      .make (f.nodes w.node).id.text recording := by
    rw [hm]
    exact Store.set_same _ _ _
  constructor
  · exact Nat.lt_succ_of_lt hw
  · rw [hm]
    exact Nat.lt_succ_self f.names
  · rw [hmeter]
    rfl
  · rw [hmeter]
    rintro rfl
    exact Recorder.isSome_gauge?_register f.recorder (f.nodes w.node).id.text

theorem metered_addWorker {n : Key Node} (hn : n.number < f.names) (shared : Shared) (recording : Bool) :
    (f.addWorker n shared recording).2.Metered (f.addWorker n shared recording).1 ∧
      f.names ≤ (f.addWorker n shared recording).1.meter.number ∧
      ((f.addWorker n shared recording).2.meters (f.addWorker n shared recording).1.meter).last =
        18446744073709551615 := by
  obtain ⟨hnode, hmeter, hflow⟩ := addWorker_prepared f n shared recording
  have hkeeps := keeps_prepared f shared
  rw [hflow]
  refine ⟨?_, ?_, ?_⟩
  · rw [← hkeeps.id n hn, ← hnode]
    apply metered_addMeter _ hmeter
    rw [hnode]
    exact Nat.lt_of_lt_of_le hn hkeeps.names
  · rw [hmeter]
    exact hkeeps.names
  · rw [hmeter]
    exact congrArg Meter.last (Store.set_same _ _ _)

end Flow
end FlowAdmission
