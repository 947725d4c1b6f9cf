import FlowAdmission.Proofs.Recording

namespace FlowAdmission

namespace Double

def equals (d : Double) (n : Nat) : Bool :=
  d.numerator == n * d.denominator

theorem roundDiv_one (n : Nat) : roundDiv n 1 = n := by
  simp [roundDiv, Nat.mod_one]

theorem magnitude_one {n : Nat} (h : n ≠ 0) : magnitude n 1 = n.log2 := by
  have hle : 1 <<< n.log2 ≤ n := by
    rw [Nat.one_shiftLeft]
    exact Nat.log2_self_le h
  have hone : Nat.log2 1 = 0 := by decide
  simp [magnitude, hone, hle]

/-- The digits of a number of at most 53 bits are moved up until they fill the significand, and the
exponent moves them down again. -/
theorem ofNat?_small {n : Nat} (hn : n ≠ 0) (h : n < 1 <<< 53) :
    n.log2 ≤ 52 ∧ ofNat? n = some ⟨n <<< (52 - n.log2), n.log2 - 52⟩ := by
  have hlog : n.log2 ≤ 52 := by
    rw [Nat.one_shiftLeft] at h
    have := (Nat.log2_lt hn).mpr h
    omega
  have hexponent : max (-1074) (magnitude n 1 - 52) = (n.log2 : Int) - 52 := by
    rw [magnitude_one hn]
    omega
  have hup : (-((n.log2 : Int) - 52)).toNat = 52 - n.log2 := by omega
  have hdown : ((n.log2 : Int) - 52).toNat = 0 := by omega
  have hbound : n <<< (52 - n.log2) < 1 <<< 53 := by
    have hlt : n < 2 ^ (n.log2 + 1) := Nat.lt_log2_self
    rw [Nat.shiftLeft_eq, Nat.one_shiftLeft]
    calc n * 2 ^ (52 - n.log2) < 2 ^ (n.log2 + 1) * 2 ^ (52 - n.log2) :=
          Nat.mul_lt_mul_of_pos_right hlt (Nat.two_pow_pos _)
      _ = 2 ^ 53 := by rw [← Nat.pow_add]; congr 1; omega
  refine ⟨hlog, ?_⟩
  rw [ofNat?, nearest?, if_neg hn]
  simp only [hexponent, hup, hdown, Nat.shiftLeft_zero, roundDiv_one]
  rw [if_neg (Nat.ne_of_lt hbound), if_neg (by dsimp only; omega)]

theorem ofNat_equals {n : Nat} (h : n < 1 <<< 53) : ((ofNat? n).getD zero).equals n = true := by
  by_cases hn : n = 0
  · subst hn
    decide
  · obtain ⟨hlog, hsome⟩ := ofNat?_small hn h
    have hup : (-((n.log2 : Int) - 52)).toNat = 52 - n.log2 := by omega
    have hdown : ((n.log2 : Int) - 52).toNat = 0 := by omega
    rw [hsome, Option.getD_some, equals, numerator, denominator, hup, hdown, Nat.shiftLeft_zero,
      Nat.shiftLeft_eq, Nat.one_shiftLeft, beq_self_eq_true]

end Double

namespace Recorder

def shows (r : Recorder) (node : String) (count : Nat) : Bool :=
  r.gauge? node == some ((Double.ofNat? count).getD .zero)

end Recorder

namespace Flow

variable {f g : Flow} {w : Worker} {ws : List Worker} {past : List (Flow × Move)}

def lastCount (m : Key Meter) : List (Flow × Move) → Option UInt64
  | [] => none
  | (f, .poll w) :: past => if w.meter = m then some (f.reported w) else lastCount m past
  | _ :: past => lastCount m past

def Alone (f : Flow) (ws : List Worker) (w : Worker) : Prop :=
  ∀ v ∈ ws, (f.meters v.meter).recording = true → (f.nodes v.node).id = (f.nodes w.node).id →
    v.meter = w.meter

/-- A meter remembers the last report through it, and the gauge shows what the only meter for it
remembers. -/
structure Watched (f : Flow) (ws : List Worker) (past : List (Flow × Move)) : Prop where
  metered : ∀ w ∈ ws, f.Metered w
  unused : ∀ m : Key Meter, f.names ≤ m.number → lastCount m past = none
  last : ∀ w ∈ ws, (f.meters w.meter).last = (lastCount w.meter past).getD 18446744073709551615
  shown : ∀ w ∈ ws, (f.meters w.meter).recording = true → f.Alone ws w →
    (f.meters w.meter).last ≠ 18446744073709551615 →
      f.recorder.shows (f.nodes w.node).id.text (f.meters w.meter).last.toNat = true

theorem lastCount_move (m : Key Meter) (f : Flow) {a : Move} (ha : ∀ w, a ≠ .poll w) :
    lastCount m ((f, a) :: past) = lastCount m past := by
  cases a with
  | poll w => exact (ha w rfl).elim
  | _ => rfl

theorem made_spec {m : Move} (hm : m.Fits f ws) (hw : w ∈ f.made m) :
    (f.move m).Metered w ∧ f.names ≤ w.meter.number ∧
      ((f.move m).meters w.meter).last = 18446744073709551615 := by
  cases m with
  | addWorker n shared recording =>
    rw [made, List.mem_singleton] at hw
    rw [hw]
    exact metered_addWorker hm shared recording
  | addTasks n ledger recording =>
    rw [show w = _ from List.eq_of_mem_replicate hw]
    exact metered_addWorker hm ⟨none, some ledger, none⟩ recording
  | _ => exact (List.not_mem_nil hw).elim

theorem Alone.old {ms : List Worker} (hmetered : ∀ v ∈ w :: ws, f.Metered v) (hg : f.Keeps g)
    (h : g.Alone (ms ++ ws) w) : f.Alone ws w := by
  intro v hv hr hid
  have hw := hmetered w List.mem_cons_self
  have hv' := hmetered v (List.mem_cons_of_mem w hv)
  apply h v (List.mem_append_right ms hv)
  · rw [hg.meter _ hv'.meter]
    exact hr
  · rw [hg.id _ hv'.node, hg.id _ hw.node]
    exact hid

theorem watched_start (f : Flow) : f.Watched [] [] :=
  ⟨nofun, fun _ _ => rfl, nofun, nofun⟩

theorem Watched.move (h : f.Watched ws past) {m : Move} (hm : m.Fits f ws) (hpoll : ∀ w, m ≠ .poll w) :
    (f.move m).Watched (f.made m ++ ws) ((f, m) :: past) := by
  have hkeeps := keeps_move f hpoll
  constructor
  · intro w hw
    rcases List.mem_append.mp hw with hw | hw
    · exact (made_spec hm hw).1
    · exact (h.metered w hw).keeps hkeeps
  · intro k hk
    rw [lastCount_move k f hpoll]
    exact h.unused k (Nat.le_trans hkeeps.names hk)
  · intro w hw
    rw [lastCount_move w.meter f hpoll]
    rcases List.mem_append.mp hw with hw | hw
    · obtain ⟨_, hfresh, hlast⟩ := made_spec hm hw
      rw [hlast, h.unused w.meter hfresh]
      rfl
    · rw [hkeeps.meter _ (h.metered w hw).meter]
      exact h.last w hw
  · intro w hw hr halone hlast
    rcases List.mem_append.mp hw with hw | hw
    · exact (hlast (made_spec hm hw).2.2).elim
    · have hmetered := h.metered w hw
      rw [hkeeps.meter _ hmetered.meter] at hr hlast ⊢
      rw [hkeeps.id _ hmetered.node, Recorder.shows, hkeeps.gauge _ (hmetered.registered hr)]
      apply h.shown w hw hr _ hlast
      exact Alone.old (List.forall_mem_cons.mpr ⟨hmetered, h.metered⟩) hkeeps halone

theorem shows_poll (h : f.Metered w) (hr : (f.meters w.meter).recording = true) :
    (f.poll w).2.recorder.shows (f.nodes w.node).id.text (f.reported w).toNat = true ↔
      (f.meters w.meter).last ≠ f.reported w ∨
        f.recorder.shows (f.nodes w.node).id.text (f.reported w).toNat = true := by
  obtain ⟨d, hd⟩ := Option.isSome_iff_exists.mp (h.registered hr)
  rw [Recorder.shows, Recorder.shows, poll_gauge, h.id, hd]
  by_cases hlast : (f.meters w.meter).last = f.reported w
  · simp [hlast]
  · simp [hlast, hr]

theorem Watched.poll (h : f.Watched ws past) (v : Worker) (hv : v ∈ ws) :
    (f.poll v).2.Watched ws ((f, .poll v) :: past) := by
  obtain ⟨hnames, hnodes⟩ := poll_frame f v
  constructor
  · intro w hw
    exact (h.metered w hw).poll v
  · intro k hk
    rw [hnames] at hk
    have hne : v.meter ≠ k := by
      rintro rfl
      exact Nat.not_lt.mpr hk (h.metered v hv).meter
    rw [lastCount, if_neg hne]
    exact h.unused k hk
  · intro w hw
    rw [poll_meters, lastCount]
    by_cases hsame : v.meter = w.meter
    · rw [hsame, Store.set_same, if_pos rfl]
      rfl
    · rw [Store.set_other _ _ (Ne.symm hsame), if_neg hsame]
      exact h.last w hw
  · intro w hw hr halone hlast
    rw [(poll_meter f v w.meter).2] at hr
    have halone : f.Alone ws w := by
      intro x hx hrx hid
      apply halone x hx
      · rw [(poll_meter f v x.meter).2]
        exact hrx
      · rw [hnodes]
        exact hid
    rw [hnodes]
    by_cases hsame : v.meter = w.meter
    · have hid : (f.nodes v.node).id.text = (f.nodes w.node).id.text := by
        rw [← (h.metered v hv).id, ← (h.metered w hw).id, hsame]
      have hreported : ((f.poll v).2.meters w.meter).last = f.reported v := by
        rw [poll_meters, ← hsame, Store.set_same]
      rw [hreported] at hlast ⊢
      rw [← hid, shows_poll (h.metered v hv) (by rwa [hsame]), or_iff_not_imp_left, not_not]
      intro hsilent
      rw [← hsilent, hsame] at hlast ⊢
      rw [hid]
      exact h.shown w hw hr halone hlast
    · rw [poll_meters, Store.set_other _ _ (Ne.symm hsame)] at hlast ⊢
      have hother : ¬ ((f.meters v.meter).recording = true ∧ (f.meters v.meter).last ≠ f.reported v ∧
          (f.nodes w.node).id.text = (f.meters v.meter).node) := by
        rintro ⟨hrv, _, hid⟩
        rw [(h.metered v hv).id] at hid
        exact hsame (halone v hv hrv (congrArg NodeId.mk hid.symm))
      rw [Recorder.shows, poll_gauge, if_neg hother]
      exact h.shown w hw hr halone hlast

theorem watched_of_shift (h : Shift f ws past) : f.Watched ws past := by
  induction h with
  | start hnew => exact watched_start _
  | @move f ws past h m hm ih =>
    cases m with
    | poll w => exact ih.poll w hm
    | _ => exact ih.move hm nofun

theorem toNat_reported (hlength : (f.poll w).1.length < 1 <<< 63) :
    (f.reported w).toNat = (f.poll w).1.length := by
  apply UInt64.toNat_ofNat_of_lt'
  exact Nat.lt_trans hlength (by decide)

/-- No list is as long as 2^63, and up to 2^53 a gauge can show any length exactly. -/
theorem gauge_shows_poll_iff (h : Shift f ws past) (hw : w ∈ ws)
    (hr : (f.meters w.meter).recording = true) (hlength : (f.poll w).1.length < 1 <<< 63) :
    let node := (f.nodes w.node).id.text
    let count := (f.poll w).1.length
    ((f.poll w).2.recorder.shows node count = true ↔
        lastCount w.meter past ≠ some count.toUInt64 ∨ f.recorder.shows node count = true) ∧
      (f.Alone ws w → (f.poll w).2.recorder.shows node count = true) ∧
      (count < 1 <<< 53 → ((Double.ofNat? count).getD .zero).equals count = true) := by
  dsimp only
  have hwatched := watched_of_shift h
  have hshows := shows_poll (hwatched.metered w hw) hr
  rw [toNat_reported hlength] at hshows
  have hreported : f.reported w ≠ 18446744073709551615 := by
    intro hgreatest
    rw [← toNat_reported hlength, hgreatest] at hlength
    exact absurd hlength (by decide)
  have hlast : (f.meters w.meter).last = f.reported w ↔ lastCount w.meter past = some (f.reported w) := by
    rw [hwatched.last w hw]
    cases lastCount w.meter past with
    | none => simpa using hreported.symm
    | some c => simp
  refine ⟨?_, ?_, Double.ofNat_equals⟩
  · rw [hshows, ne_eq, hlast]
    rfl
  · intro halone
    rw [hshows, or_iff_not_imp_left, not_not]
    intro hsilent
    have hshown := hwatched.shown w hw hr halone
    rw [hsilent, toNat_reported hlength] at hshown
    exact hshown hreported

def posting : List Move := [
  .act (.addNode { NodeSpec.blank with id := ⟨"p"⟩, tasks := 2 }),
  .act (.addNode { NodeSpec.blank with id := ⟨"up"⟩, relationships := [.named "out"] }),
  .act (.addQueue (.switch false))]

def posted : Flow :=
  posting.foldl move empty

theorem shift_posted : ∃ past, Shift posted [] past :=
  shift_foldl (.start isNew_empty) (by simp [posting])

def turns (v w : Worker) : List Move := [
  .poll v,
  .act (.connect ⟨1⟩ ⟨0⟩ ⟨"x"⟩ (.named "out") ⟨2⟩),
  .poll w,
  .act (.disconnect ⟨1⟩ ⟨0⟩ ⟨"x"⟩)]

theorem mem_turns {v w : Worker} (hv : v ∈ ws) (hw : w ∈ ws) :
    ∀ m ∈ turns v w, (∃ a, m = .act a) ∨ ∃ w ∈ ws, m = .poll w := by
  simp [turns, hv, hw]

def teamMate : Worker :=
  ⟨⟨0⟩, ⟨3⟩, ⟨0⟩, ⟨4⟩, ⟨5⟩⟩

def team : Flow :=
  (turns teamMate teamMate).foldl move (posted.addTasks ⟨0⟩ ⟨0⟩ true).2

theorem team_shows_poll : (team.poll teamMate).1 = [] ∧ (team.poll teamMate).2.recorder.shows "p" 0 = true := by
  obtain ⟨_, hposted⟩ := shift_posted
  have hmade := hposted.move (m := .addTasks ⟨0⟩ ⟨0⟩ true) (by decide +kernel)
  have hw : teamMate ∈ posted.made (.addTasks ⟨0⟩ ⟨0⟩ true) ++ [] := by decide +kernel
  obtain ⟨_, h⟩ := shift_foldl hmade (mem_turns hw hw)
  have halone : team.Alone (posted.made (.addTasks ⟨0⟩ ⟨0⟩ true) ++ []) teamMate := by
    intro v hv _ _
    rw [List.append_nil] at hv
    exact congrArg Worker.meter (List.eq_of_mem_replicate hv)
  have hempty : (team.poll teamMate).1 = [] := by decide +kernel
  have hid : (team.nodes teamMate.node).id.text = "p" := by decide +kernel
  have hshows := (gauge_shows_poll_iff (f := team) h hw (by decide +kernel) (by decide +kernel)).2.1 halone
  rw [hempty, hid] at hshows
  exact ⟨hempty, hshows⟩

def rival : Worker :=
  ⟨⟨0⟩, ⟨3⟩, ⟨4⟩, ⟨5⟩, ⟨6⟩⟩

def otherRival : Worker :=
  ⟨⟨0⟩, ⟨7⟩, ⟨8⟩, ⟨9⟩, ⟨10⟩⟩

def rivals : Flow :=
  (turns rival otherRival).foldl move
    ((posted.addWorker ⟨0⟩ ⟨none, none, none⟩ true).2.addWorker ⟨0⟩ ⟨none, none, none⟩ true).2

theorem rivals_gauge_stale : ∃ ws past, Shift rivals ws past ∧ rival ∈ ws ∧
    (rivals.meters rival.meter).recording = true ∧ (rivals.poll rival).1 = [] ∧
    (rivals.poll rival).2.recorder.shows "p" 0 = false ∧
    (rivals.poll rival).2.recorder.shows "p" 1 = true := by
  obtain ⟨_, hposted⟩ := shift_posted
  have hfirst := hposted.move (m := .addWorker ⟨0⟩ ⟨none, none, none⟩ true) (by decide +kernel)
  have hboth := hfirst.move (m := .addWorker ⟨0⟩ ⟨none, none, none⟩ true) (by decide +kernel)
  obtain ⟨past, h⟩ := shift_foldl hboth (mem_turns (v := rival) (w := otherRival) (by decide +kernel)
    (by decide +kernel))
  exact ⟨_, past, h, by decide +kernel, by decide +kernel, by decide +kernel, by decide +kernel,
    by decide +kernel⟩

end Flow

end FlowAdmission
