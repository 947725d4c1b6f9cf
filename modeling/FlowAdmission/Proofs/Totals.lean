import FlowAdmission.Proofs.Gauges
import FlowAdmission.Proofs.Keys
import FlowAdmission.Proofs.Sorting
import FlowAdmission.Proofs.Steps

namespace FlowAdmission

inductive Metric
  | engaged
  | adjusted
deriving DecidableEq

namespace Metric

def title : Metric → String
  | engaged => "flowgate_backpressure_engaged_total"
  | adjusted => "flowgate_counter_adjustments_total"

def value : Metric → Series → UInt64
  | engaged, s => s.engaged
  | adjusted, s => s.adjustments

theorem title_inj {k k' : Metric} : k.title = k'.title ↔ k = k' := by
  cases k <;> cases k' <;> decide

end Metric

namespace Recorder

variable {r r' r'' : Recorder} {node : String} {k : Metric}

def value (r : Recorder) (k : Metric) (node : String) : UInt64 :=
  ((r.find? node).map k.value).getD 0

def Sound (r : Recorder) : Prop :=
  (r.series.map Series.node).Nodup

/-- The second recorder is the first with a series opened at zero, if there was none, and with some of the
totals that there were raised by one. -/
structure Changes (r r' : Recorder) (opened : Option String) (raised : Metric → Option String) : Prop where
  sound : r.Sound → r'.Sound
  known : ∀ node, (r'.find? node).isSome = true ↔ (r.find? node).isSome = true ∨ opened = some node
  value : ∀ k node, r'.value k node =
    r.value k node + if raised k = some node ∧ (r.find? node).isSome = true then 1 else 0

theorem Changes.refl (r : Recorder) : r.Changes r none (fun _ => none) :=
  ⟨id, by simp, by simp⟩

theorem Changes.quiet {opened : Option String} {raised : Metric → Option String}
    (h : r.Changes r' opened raised) (h' : r'.Changes r'' none (fun _ => none)) :
    r.Changes r'' opened raised where
  sound hr := h'.sound (h.sound hr)
  known node := by
    rw [h'.known, h.known]
    simp
  value k node := by
    rw [h'.value, h.value]
    simp

theorem changes_update (r : Recorder) (node : String) {change : Series → Series}
    (hc : ∀ s, (change s).node = s.node) (P : Metric → Prop) [DecidablePred P]
    (hv : ∀ k s, k.value (change s) = k.value s + if P k then 1 else 0) :
    r.Changes (r.update node change) none (fun k => if P k then some node else none) := by
  have hnodes : (r.update node change).series.map Series.node = r.series.map Series.node :=
    Keyed.keys_amend hc r.series
  refine ⟨?_, ?_, ?_⟩
  · intro hr
    rwa [Sound, hnodes]
  · intro id
    rw [find?_update r node id hc]
    by_cases hid : id = node
    · simp [hid]
    · simp [hid]
  · intro k id
    rw [value, value, find?_update r node id hc]
    by_cases hid : id = node
    · subst hid
      cases r.find? id with
      | none => simp
      | some s => by_cases hk : P k <;> simp [hv, hk]
    · simp [hid, Ne.symm hid]

theorem changes_engage (r : Recorder) (node : String) :
    r.Changes (r.engage node) none (fun k => if k = .engaged then some node else none) := by
  apply changes_update
  · intro s
    rfl
  · intro k s
    cases k <;> simp [Metric.value]

theorem changes_adjust (r : Recorder) (node : String) :
    r.Changes (r.adjust node) none (fun k => if k = .adjusted then some node else none) := by
  apply changes_update
  · intro s
    rfl
  · intro k s
    cases k <;> simp [Metric.value]

theorem changes_setPollable (r : Recorder) (node : String) (count : UInt64) :
    r.Changes (r.setPollable node count) none (fun _ => none) := by
  have h : r.Changes (r.setPollable node count) none (fun k => if False then some node else none) := by
    apply changes_update
    · intro s
      rfl
    · intro k s
      cases k <;> simp [Metric.value]
  simpa only [ite_false] using h

theorem changes_register (r : Recorder) (node : String) :
    r.Changes (r.register node) (some node) (fun _ => none) where
  sound := Keyed.nodup_entry rfl (fun _ => rfl)
  known id := by
    rw [find?_register]
    by_cases hid : id = node
    · simp [hid]
    · simp [hid, Ne.symm hid]
  value k id := by
    rw [value, value, find?_register]
    by_cases hid : id = node
    · subst hid
      cases r.find? id with
      | none => cases k <;> simp [Metric.value]
      | some s => simp
    · simp [hid]

theorem find?_iff (h : r.Sound) {s : Series} : r.find? node = some s ↔ s ∈ r.series ∧ s.node = node :=
  Keyed.get?_iff h

theorem label_inj {m n : String} : label m = label n ↔ m = n := by
  rw [label, label, String.append_right_inj]

theorem mem_totals {t : Total} : t ∈ r.totals ↔ ∃ s ∈ r.series, ∃ k : Metric, t = ⟨k.title, label s.node, k.value s⟩ := by
  rw [totals, Text.mem_sortOnPair, List.mem_flatMap]
  apply exists_congr
  intro s
  apply and_congr_right
  intro _
  simp only [List.mem_cons, List.not_mem_nil, or_false]
  constructor
  · rintro (h | h)
    · exact ⟨.engaged, h⟩
    · exact ⟨.adjusted, h⟩
  · rintro ⟨k, h⟩
    cases k
    · exact .inl h
    · exact .inr h

theorem total_iff (h : r.Sound) (k : Metric) (node : String) (value : UInt64) :
    ⟨k.title, label node, value⟩ ∈ r.totals ↔ (r.find? node).isSome = true ∧ value = r.value k node := by
  rw [mem_totals, Option.isSome_iff_exists]
  constructor
  · rintro ⟨s, hs, k', ht⟩
    obtain ⟨htitle, hlabel, hvalue⟩ := Total.mk.inj ht
    rw [Metric.title_inj] at htitle
    rw [label_inj] at hlabel
    have hfound := (find?_iff h).mpr ⟨hs, hlabel.symm⟩
    refine ⟨⟨s, hfound⟩, ?_⟩
    rw [Recorder.value, hfound, hvalue, htitle]
    rfl
  · rintro ⟨⟨s, hfound⟩, rfl⟩
    obtain ⟨hs, hnode⟩ := (find?_iff h).mp hfound
    refine ⟨s, hs, k, ?_⟩
    rw [Recorder.value, hfound, hnode]
    rfl

theorem nodup_totals (h : r.Sound) : (r.totals.map (fun t => (t.metric, t.label))).Nodup := by
  rw [totals, Text.sortOnPair, ((List.mergeSort_perm _ _).map _).nodup_iff, List.Nodup, List.pairwise_map,
    List.pairwise_flatMap]
  constructor
  · intro s _
    simp
  · rw [Sound, List.Nodup, List.pairwise_map] at h
    apply h.imp
    intro s s' hne t ht t' ht' hsame
    have hlabel := (Prod.mk.inj hsame).2
    simp only [List.mem_cons, List.not_mem_nil, or_false] at ht ht'
    rcases ht with rfl | rfl <;> rcases ht' with rfl | rfl <;> exact hne (label_inj.mp hlabel)

end Recorder

namespace Meter

variable (m : Meter) (r : Recorder)

theorem changes_engage : r.Changes (m.engage r) none
    (fun k => if k = .engaged ∧ m.recording = true then some m.node else none) := by
  rw [engage]
  cases m.recording with
  | true => simpa using r.changes_engage m.node
  | false => simpa using Recorder.Changes.refl r

theorem changes_adjust : r.Changes (m.adjust r) none
    (fun k => if k = .adjusted ∧ m.recording = true then some m.node else none) := by
  rw [adjust]
  cases m.recording with
  | true => simpa using r.changes_adjust m.node
  | false => simpa using Recorder.Changes.refl r

theorem changes_setPollable (count : UInt64) :
    r.Changes (m.setPollable r count).2.2 none (fun _ => none) := by
  rw [setPollable]
  split
  · exact Recorder.Changes.refl r
  · cases m.recording with
    | true => exact r.changes_setPollable m.node count
    | false => exact Recorder.Changes.refl r

theorem setPollable_silent (h : m.recording = false) (count : UInt64) : (m.setPollable r count).2.2 = r := by
  rw [setPollable, h]
  split <;> rfl

end Meter

def Step.Quiet : Step → Prop
  | .look _ => True
  | .move (.act _) => True
  | .move (.advance _) => True
  | .move (.nextIndex _) => True
  | .move (.draw _) => True
  | .move _ => False

namespace Flow

variable {f : Flow} {ws : List Worker} {past : List (Flow × Move)} {w : Worker}

def opening (f : Flow) : List (Flow × Move) → Flow
  | [] => f
  | (g, _) :: past => opening g past

def registered? (f : Flow) : Move → Option String
  | .addWorker n _ true => some (f.nodes n).id.text
  | .addTasks n _ true => some (f.nodes n).id.text
  | _ => none

def recorded (past : List (Flow × Move)) : List Worker :=
  past.flatMap (fun p => if (p.1.registered? p.2).isSome then p.1.made p.2 else [])

def counted? (f : Flow) : Metric → Move → Option Worker
  | .engaged, .poll w => if f.isRestricted w then some w else none
  | .adjusted, .adjustCounter w _ _ => some w
  | _, _ => none

/-- How often the workers over nodes of an id, made with a recorder, did what counts. -/
def tally (k : Metric) (node : String) (past : List (Flow × Move)) : Nat :=
  past.countP (fun p =>
    (p.1.counted? k p.2).any (fun w => w ∈ recorded past ∧ (p.1.nodes w.node).id.text = node))

theorem poll_recorder (f : Flow) (w : Worker) : ∃ count, (f.poll w).2.recorder =
    ((f.meters w.meter).setPollable
      (if f.isRestricted w then (f.meters w.meter).engage f.recorder else f.recorder) count).2.2 := by
  refine ⟨(f.poll w).1.length.toUInt64, ?_⟩
  rw [poll, isRestricted]
  split <;> rfl

theorem act_recorder (f : Flow) (a : Action) : (f.act a).recorder = f.recorder :=
  (congrArg Flow.recorder (act_frame f a).2 :)

theorem addWorker_recorder (f : Flow) (n : Key Node) (shared : Shared) (recording : Bool) :
    (f.addWorker n shared recording).2.recorder =
      if recording then f.recorder.register (f.nodes n).id.text else f.recorder := by
  have hprepared : (f.prepared shared).recorder = f.recorder := by
    obtain ⟨rotation, ledger, sequence⟩ := shared
    cases rotation <;> cases ledger <;> cases sequence <;> rfl
  rw [(addWorker_prepared f n shared recording).2.2, ← hprepared]
  rfl

theorem changes_addWorker (f : Flow) (n : Key Node) (shared : Shared) (recording : Bool) :
    f.recorder.Changes (f.addWorker n shared recording).2.recorder
      (f.registered? (.addWorker n shared recording)) (fun _ => none) := by
  rw [addWorker_recorder]
  cases recording with
  | true => exact f.recorder.changes_register (f.nodes n).id.text
  | false => exact Recorder.Changes.refl f.recorder

def raised (f : Flow) (m : Move) (k : Metric) : Option String :=
  (f.counted? k m).bind (fun w =>
    if (f.meters w.meter).recording = true then some (f.meters w.meter).node else none)

theorem changes_move (f : Flow) (m : Move) :
    f.recorder.Changes (f.move m).recorder (f.registered? m) (f.raised m) := by
  have hquiet {g : Flow} (h : g.recorder = f.recorder) :
      f.recorder.Changes g.recorder none (fun _ => none) := by
    rw [h]
    exact Recorder.Changes.refl f.recorder
  have hnone {m : Move} (h : ∀ k, f.counted? k m = none) : f.raised m = fun _ => none := by
    funext k
    rw [raised, h]
    rfl
  cases m with
  | act a =>
    rw [hnone (by intro k; cases k <;> rfl)]
    exact hquiet (act_recorder f a)
  | addWorker n shared recording =>
    rw [hnone (by intro k; cases k <;> rfl)]
    exact changes_addWorker f n shared recording
  | addTasks n ledger recording =>
    rw [hnone (by intro k; cases k <;> rfl)]
    have h := changes_addWorker f n ⟨none, some ledger, none⟩ recording
    cases recording <;> exact h
  | poll w =>
    obtain ⟨count, hpoll⟩ := poll_recorder f w
    have hpolled := (f.meters w.meter).changes_setPollable
      (if f.isRestricted w then (f.meters w.meter).engage f.recorder else f.recorder) count
    rw [move, hpoll]
    refine Recorder.Changes.quiet ?_ hpolled
    cases hr : f.isRestricted w with
    | true =>
      have hraised : f.raised (.poll w) = fun k =>
          if k = .engaged ∧ (f.meters w.meter).recording = true then some (f.meters w.meter).node else none := by
        funext k
        cases k <;> simp [raised, counted?, hr]
      rw [hraised]
      exact (f.meters w.meter).changes_engage f.recorder
    | false =>
      rw [hnone (by intro k; cases k <;> simp [counted?, hr])]
      exact Recorder.Changes.refl f.recorder
  | advance w =>
    rw [hnone (by intro k; cases k <;> rfl)]
    exact hquiet rfl
  | nextIndex w =>
    rw [hnone (by intro k; cases k <;> rfl)]
    exact hquiet rfl
  | adjustCounter w name delta =>
    have hraised : f.raised (.adjustCounter w name delta) = fun k =>
        if k = .adjusted ∧ (f.meters w.meter).recording = true then some (f.meters w.meter).node else none := by
      funext k
      cases k <;> simp [raised, counted?]
    rw [hraised]
    exact (f.meters w.meter).changes_adjust f.recorder
  | draw w =>
    rw [hnone (by intro k; cases k <;> rfl)]
    exact hquiet rfl

theorem recording_made {m : Move} (hw : w ∈ f.made m) :
    ((f.move m).meters w.meter).recording = (f.registered? m).isSome := by
  have hmeter (n : Key Node) (shared : Shared) (recording : Bool) :
      ((f.addWorker n shared recording).2.meters (f.addWorker n shared recording).1.meter).recording =
        recording := by
    obtain ⟨_, hmeter, hflow⟩ := addWorker_prepared f n shared recording
    rw [hmeter, hflow]
    exact congrArg Meter.recording (Store.set_same _ _ _)
  cases m with
  | addWorker n shared recording =>
    rw [made, List.mem_singleton] at hw
    rw [hw, move, hmeter]
    cases recording <;> rfl
  | addTasks n ledger recording =>
    rw [show w = _ from List.eq_of_mem_replicate hw]
    refine (hmeter n ⟨none, some ledger, none⟩ recording).trans ?_
    cases recording <;> rfl
  | _ => exact (List.not_mem_nil hw).elim

theorem recording_move {k : Key Meter} (hk : k.number < f.names) (m : Move) :
    ((f.move m).meters k).recording = (f.meters k).recording := by
  by_cases hm : ∃ w, m = .poll w
  · obtain ⟨w, rfl⟩ := hm
    exact (poll_meter f w k).2
  · rw [(keeps_move f (fun w hw => hm ⟨w, hw⟩)).meter k hk]

theorem counted?_mem {k : Metric} {m : Move} (hm : m.Fits f ws) (hw : f.counted? k m = some w) : w ∈ ws := by
  cases m with
  | poll v =>
    cases k with
    | engaged =>
      obtain ⟨_, hv⟩ := Option.ite_none_right_eq_some.mp hw
      exact Option.some.inj hv ▸ hm
    | adjusted => cases hw
  | adjustCounter v name delta =>
    cases k with
    | engaged => cases hw
    | adjusted => exact Option.some.inj hw ▸ hm
  | _ => cases k <;> cases hw

structure Booked (f : Flow) (ws : List Worker) (past : List (Flow × Move)) : Prop where
  metered : ∀ w ∈ ws, f.Metered w
  recording : ∀ w ∈ ws, (f.meters w.meter).recording = true ↔ w ∈ recorded past
  recorded : ∀ w ∈ recorded past, w ∈ ws
  counted : ∀ p ∈ past, ∀ k w, p.1.counted? k p.2 = some w → w ∈ ws
  sound : f.recorder.Sound
  known : ∀ node, (f.recorder.find? node).isSome = true ↔ ∃ p ∈ past, p.1.registered? p.2 = some node
  value : ∀ k node, f.recorder.value k node = UInt64.ofNat (tally k node past)
  idle : ∀ k node, (f.recorder.find? node).isSome = false → tally k node past = 0

theorem booked_start (h : f.recorder = .empty) : f.Booked [] [] := by
  constructor <;> simp [h, Recorder.empty, Recorder.Sound, Recorder.find?, Keyed.get?, Recorder.value, recorded, tally]

theorem mem_recorded_cons {m : Move} : w ∈ recorded ((f, m) :: past) ↔
    (w ∈ f.made m ∧ (f.registered? m).isSome = true) ∨ w ∈ recorded past := by
  rw [recorded, List.flatMap_cons, List.mem_append]
  apply or_congr_left
  split <;> simp [*]

theorem not_mem_of_made (h : f.Booked ws past) {m : Move} (hm : m.Fits f ws) (hw : w ∈ f.made m) : w ∉ ws := by
  intro hold
  -- a new worker has a new meter
  have hnew : f.names ≤ w.meter.number := (made_spec hm hw).2.1
  exact Nat.not_lt.mpr hnew (h.metered w hold).meter

theorem mem_recorded_old (h : f.Booked ws past) {m : Move} (hm : m.Fits f ws) (hw : w ∈ ws) :
    w ∈ recorded ((f, m) :: past) ↔ w ∈ recorded past := by
  rw [mem_recorded_cons, or_iff_right]
  rintro ⟨hmade, _⟩
  exact not_mem_of_made h hm hmade hw

theorem raised_iff (h : f.Booked ws past) {m : Move} (hm : m.Fits f ws) (k : Metric) (node : String) :
    f.raised m k = some node ↔
      ∃ w, f.counted? k m = some w ∧ w ∈ recorded past ∧ (f.nodes w.node).id.text = node := by
  rw [raised, Option.bind_eq_some_iff]
  apply exists_congr
  intro w
  apply and_congr_right
  intro hw
  have hw := counted?_mem hm hw
  rw [Option.ite_none_right_eq_some, h.recording w hw, (h.metered w hw).id, Option.some_inj]

theorem isSome_find?_raised (h : f.Booked ws past) {m : Move} (hm : m.Fits f ws) {k : Metric} {node : String}
    (hr : f.raised m k = some node) : (f.recorder.find? node).isSome = true := by
  obtain ⟨w, hw, hrecorded, rfl⟩ := (raised_iff h hm k node).mp hr
  have hw := counted?_mem hm hw
  rw [← Option.isSome_map (f := Series.pollable)]
  exact (h.metered w hw).registered ((h.recording w hw).mpr hrecorded)

theorem tally_cons (h : f.Booked ws past) {m : Move} (hm : m.Fits f ws) (k : Metric) (node : String) :
    tally k node ((f, m) :: past) = tally k node past + if f.raised m k = some node then 1 else 0 := by
  rw [tally, List.countP_cons, tally]
  congr 1
  · apply List.countP_congr
    intro p hp
    simp only [Option.any_eq_true, decide_eq_true_eq]
    apply exists_congr
    intro w
    apply and_congr_right
    intro hw
    -- the workers of earlier moves are not the new ones, so they count as before
    rw [mem_recorded_old h hm (h.counted p hp k w hw)]
  · congr 1
    rw [raised_iff h hm, eq_iff_iff]
    simp only [Option.any_eq_true, decide_eq_true_eq]
    apply exists_congr
    intro w
    apply and_congr_right
    intro hw
    rw [mem_recorded_old h hm (counted?_mem hm hw)]

theorem Booked.move (h : f.Booked ws past) {m : Move} (hm : m.Fits f ws)
    (hmetered : ∀ w ∈ f.made m ++ ws, (f.move m).Metered w) :
    (f.move m).Booked (f.made m ++ ws) ((f, m) :: past) := by
  have hchanges := changes_move f m
  constructor
  · exact hmetered
  · intro w hw
    rcases List.mem_append.mp hw with hw | hw
    · rw [recording_made hw, mem_recorded_cons, and_iff_right hw, or_iff_left]
      intro hold
      exact not_mem_of_made h hm hw (h.recorded w hold)
    · rw [recording_move (h.metered w hw).meter, mem_recorded_old h hm hw]
      exact h.recording w hw
  · intro w hw
    rw [List.mem_append]
    rcases mem_recorded_cons.mp hw with ⟨hmade, _⟩ | hold
    · exact .inl hmade
    · exact .inr (h.recorded w hold)
  · intro p hp k w hw
    apply List.mem_append_right
    rcases List.mem_cons.mp hp with rfl | hp
    · exact counted?_mem hm hw
    · exact h.counted p hp k w hw
  · exact hchanges.sound h.sound
  · intro node
    rw [hchanges.known, h.known, List.exists_mem_cons_iff, or_comm]
  · intro k node
    rw [hchanges.value, tally_cons h hm, h.value]
    by_cases hr : f.raised m k = some node
    · rw [if_pos ⟨hr, isSome_find?_raised h hm hr⟩, if_pos hr, UInt64.ofNat_add]
      rfl
    · rw [if_neg (fun hboth => hr hboth.1), if_neg hr, Nat.add_zero]
      exact UInt64.add_zero _
  · intro k node hunknown
    have hbefore : (f.recorder.find? node).isSome = false := by
      rw [Bool.eq_false_iff] at hunknown ⊢
      intro hsome
      exact hunknown ((hchanges.known node).mpr (.inl hsome))
    rw [tally_cons h hm, h.idle k node hbefore, if_neg]
    intro hr
    rw [isSome_find?_raised h hm hr] at hbefore
    cases hbefore

theorem booked_of_shift (h : Shift f ws past) (hstart : (opening f past).recorder = .empty) :
    f.Booked ws past := by
  induction h with
  | start hnew => exact booked_start hstart
  | move h hm ih => exact (ih hstart).move hm (watched_of_shift (h.move hm)).metered

theorem quiet_recorder (f : Flow) {s : Step} (hs : s.Quiet) : (f.step s).recorder = f.recorder := by
  cases s with
  | look q => rfl
  | move m =>
    cases m with
    | act a => exact act_recorder f a
    | advance w => rfl
    | nextIndex w => rfl
    | draw w => rfl
    | _ => exact hs.elim

theorem poll_silent (hw : (f.meters w.meter).recording = false) : (f.poll w).2.recorder = f.recorder := by
  obtain ⟨count, hpoll⟩ := poll_recorder f w
  rw [hpoll, Meter.setPollable_silent _ _ hw, Meter.engage, hw]
  exact ite_self _

theorem adjustCounter_silent (hw : (f.meters w.meter).recording = false) (name : String) (delta : Int64) :
    (f.adjustCounter w name delta).recorder = f.recorder := by
  change (f.meters w.meter).adjust f.recorder = f.recorder
  rw [Meter.adjust, hw]
  rfl

/-- Every id that a recording worker was made for has a total for each metric, and the total is what
the history tells, up to the size of a number. -/
theorem totals_exact (h : Shift f ws past) (hstart : (opening f past).recorder = .empty) :
    (f.recorder.totals.map (fun t => (t.metric, t.label))).Nodup ∧
      (∀ k node value, ⟨k.title, Recorder.label node, value⟩ ∈ f.recorder.totals ↔
        (∃ p ∈ past, p.1.registered? p.2 = some node) ∧ value.toNat = tally k node past % UInt64.size) ∧
      (∀ k node, (¬ ∃ p ∈ past, p.1.registered? p.2 = some node) → tally k node past = 0) ∧
      (∀ w, (f.poll w).1 = if f.isRestricted w
        then (f.nodes w.node).incoming.filter Edge.isSelfLoop else (f.nodes w.node).incoming) ∧
      (∀ s : Step, s.Quiet → (f.step s).recorder = f.recorder) ∧
      ∀ w ∈ ws, w ∉ recorded past → (f.poll w).2.recorder = f.recorder ∧
        ∀ name delta, (f.adjustCounter w name delta).recorder = f.recorder := by
  have hbooked := booked_of_shift h hstart
  refine ⟨Recorder.nodup_totals hbooked.sound, ?_, ?_, fun _ => rfl, fun s => quiet_recorder f, ?_⟩
  · intro k node value
    rw [Recorder.total_iff hbooked.sound, hbooked.known, hbooked.value, ← UInt64.toNat_inj, UInt64.toNat_ofNat']
  · intro k node hunknown
    apply hbooked.idle
    rwa [← hbooked.known, Bool.not_eq_true] at hunknown
  · intro w hw hsilent
    rw [← hbooked.recording w hw, Bool.not_eq_true] at hsilent
    exact ⟨poll_silent hsilent, adjustCounter_silent hsilent⟩

def twins : List Move := [
  .act (.addNode { NodeSpec.blank with id := ⟨"p"⟩, relationships := [.named "out"] }),
  .act (.addNode { NodeSpec.blank with id := ⟨"p"⟩, relationships := [.named "out"] }),
  .act (.addQueue (.switch true)),
  .addTasks ⟨0⟩ ⟨0⟩ true,
  .addWorker ⟨1⟩ ⟨none, none, none⟩ true,
  .addWorker ⟨0⟩ ⟨none, none, none⟩ false,
  .act (.connect ⟨0⟩ ⟨1⟩ ⟨"x"⟩ (.named "out") ⟨2⟩),
  .poll ⟨⟨0⟩, ⟨3⟩, ⟨0⟩, ⟨4⟩, ⟨5⟩⟩,
  .poll ⟨⟨0⟩, ⟨10⟩, ⟨11⟩, ⟨12⟩, ⟨13⟩⟩,
  .poll ⟨⟨1⟩, ⟨6⟩, ⟨7⟩, ⟨8⟩, ⟨9⟩⟩,
  .adjustCounter ⟨⟨1⟩, ⟨6⟩, ⟨7⟩, ⟨8⟩, ⟨9⟩⟩ "read" 5,
  .act (.connect ⟨1⟩ ⟨0⟩ ⟨"y"⟩ (.named "out") ⟨2⟩),
  .poll ⟨⟨1⟩, ⟨6⟩, ⟨7⟩, ⟨8⟩, ⟨9⟩⟩]

theorem twins_totals : empty.fits [] twins = true ∧
    ⟨Metric.engaged.title, Recorder.label "p", 2⟩ ∈ (twins.foldl move empty).recorder.totals ∧
    ⟨Metric.adjusted.title, Recorder.label "p", 1⟩ ∈ (twins.foldl move empty).recorder.totals := by
  have hfits : empty.fits [] twins = true := by decide +kernel
  have h := shift_moves (.start isNew_empty) hfits
  have htotal := (totals_exact h (by decide +kernel)).2.1
  have hregistered : ∃ p ∈ empty.history [] twins, p.1.registered? p.2 = some "p" := by decide +kernel
  exact ⟨hfits, (htotal .engaged "p" 2).mpr ⟨hregistered, by decide +kernel⟩,
    (htotal .adjusted "p" 1).mpr ⟨hregistered, by decide +kernel⟩⟩

end Flow

end FlowAdmission
