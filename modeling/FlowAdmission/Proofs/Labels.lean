import FlowAdmission.Proofs.DoubleEntry

namespace FlowAdmission

namespace Node

variable {m n : Node}

/-- The name of the second goes on where that of the first ends, and the id of the first begins with what
follows there. -/
def Overlaps (m n : Node) : Prop :=
  ∃ shared, n.name = m.name ++ " (" ++ shared ∧ m.id.text = shared ++ " (" ++ n.id.text

theorem ownLabel_eq (n : Node) : n.ownLabel = n.name ++ " (" ++ n.id.text ++ ")" := rfl

theorem ownLabel_of_overlaps (h : m.Overlaps n) : m.ownLabel = n.ownLabel := by
  obtain ⟨shared, hname, hid⟩ := h
  simp only [ownLabel_eq, hname, hid, String.append_assoc]

theorem ownLabel_inj : m.ownLabel = n.ownLabel ↔
    m.name.toList ++ ' ' :: '(' :: m.id.text.toList = n.name.toList ++ ' ' :: '(' :: n.id.text.toList := by
  rw [ownLabel_eq, ownLabel_eq, String.append_left_inj, ← String.toList_inj]
  simp

theorem opening_cases {before rest rest' : List Char} (h : ' ' :: '(' :: rest = before ++ ' ' :: '(' :: rest') :
    (before = [] ∧ rest = rest') ∨
      ∃ shared, before = ' ' :: '(' :: shared ∧ rest = shared ++ ' ' :: '(' :: rest' := by
  cases before with
  | nil => simpa using h
  | cons c before =>
    cases before with
    | nil => simp at h
    | cons c' shared =>
      simp only [List.cons_append, List.cons.injEq] at h
      obtain ⟨rfl, rfl, hrest⟩ := h
      exact Or.inr ⟨shared, rfl, hrest⟩

theorem overlaps_of_cut (hids : m.id ≠ n.id) {before : List Char}
    (hname : n.name.toList = m.name.toList ++ before)
    (hcut : ' ' :: '(' :: m.id.text.toList = before ++ ' ' :: '(' :: n.id.text.toList) : m.Overlaps n := by
  obtain ⟨_, hid⟩ | ⟨shared, rfl, hid⟩ := opening_cases hcut
  · exact absurd (congrArg NodeId.mk (String.toList_inj.mp hid)) hids
  · refine ⟨.ofList shared, ?_, ?_⟩
    · apply String.toList_inj.mp
      simp [hname]
    · apply String.toList_inj.mp
      simp [hid]

theorem ownLabel_eq_iff (hids : m.id ≠ n.id) : m.ownLabel = n.ownLabel ↔ m.Overlaps n ∨ n.Overlaps m := by
  constructor
  · intro h
    obtain ⟨before, hname, hcut⟩ | ⟨before, hname, hcut⟩ := List.append_eq_append_iff.mp (ownLabel_inj.mp h)
    · exact Or.inl (overlaps_of_cut hids hname hcut)
    · exact Or.inr (overlaps_of_cut hids.symm hname hcut)
  · rintro (h | h)
    · exact ownLabel_of_overlaps h
    · exact (ownLabel_of_overlaps h).symm

theorem not_overlaps (h : '(' ∉ m.id.text.toList) : ¬ m.Overlaps n := by
  rintro ⟨shared, _, hid⟩
  apply h
  simp [hid]

end Node

namespace Flow

variable {f : Flow}

theorem find?_adjustCounter (f : Flow) (w : Worker) (name : String) (delta : Int64) (label counter : String) :
    ((f.adjustCounter w name delta).ledgers w.ledger).find? label counter =
      (((f.ledgers w.ledger).adjust (f.nodes w.node).ownLabel name delta).adjust
        (f.nodes w.node).typeLabel name delta).find? label counter := by
  rw [ledgers_adjustCounter, Store.set_same]
  rfl

theorem find?_adjustCounter_other {w : Worker} {n : Node} (h : (f.nodes w.node).ownLabel ≠ n.ownLabel)
    (name : String) (delta : Int64) (counter : String) :
    ((f.adjustCounter w name delta).ledgers w.ledger).find? n.ownLabel counter =
      (f.ledgers w.ledger).find? n.ownLabel counter := by
  have htype : n.ownLabel ≠ (f.nodes w.node).typeLabel := Node.ownLabel_ne n _
  rw [find?_adjustCounter, Ledger.find?_adjust, if_neg (fun hkey => htype hkey.1), Ledger.find?_adjust,
    if_neg (fun hkey => h hkey.1.symm)]

theorem value_adjustCounter_own (f : Flow) (w : Worker) (name : String) (delta : Int64) :
    ((f.adjustCounter w name delta).ledgers w.ledger).value (f.nodes w.node).ownLabel name =
      (f.ledgers w.ledger).value (f.nodes w.node).ownLabel name + delta := by
  have htype : (f.nodes w.node).ownLabel ≠ (f.nodes w.node).typeLabel := Node.ownLabel_ne _ _
  rw [Ledger.value, find?_adjustCounter, Ledger.find?_adjust, if_neg (fun hkey => htype hkey.1), ← Ledger.value,
    Ledger.value_adjust]

/-- Two nodes keep their counters apart unless the id of one takes in the end of the other's name; then every
call of one is booked below the label of the other too. -/
theorem counters_isolated_iff (f : Flow) (l : Key Ledger) {m n : Key Node}
    (hids : (f.nodes m).id ≠ (f.nodes n).id) :
    let label := (f.nodes n).ownLabel
    let overlap := (f.nodes m).Overlaps (f.nodes n) ∨ (f.nodes n).Overlaps (f.nodes m)
    ((f.nodes m).ownLabel = label ↔ overlap) ∧
      ((∀ calls : List Move, (∀ c ∈ calls, ∃ w name delta, c = .adjustCounter w name delta) →
          ∀ w name delta counter, w.node = m → w.ledger = l →
            (((calls.foldl move f).adjustCounter w name delta).ledgers l).find? label counter =
              ((calls.foldl move f).ledgers l).find? label counter) ↔ ¬ overlap) ∧
      (overlap → ∀ w name delta, w.node = m → w.ledger = l →
        ((f.adjustCounter w name delta).ledgers l).value label name = (f.ledgers l).value label name + delta) ∧
      ('(' ∉ (f.nodes m).id.text.toList → '(' ∉ (f.nodes n).id.text.toList → ¬ overlap) := by
  dsimp only
  have hlabel := Node.ownLabel_eq_iff hids
  have hshared : (f.nodes m).Overlaps (f.nodes n) ∨ (f.nodes n).Overlaps (f.nodes m) →
      ∀ w name delta, w.node = m → w.ledger = l →
        ((f.adjustCounter w name delta).ledgers l).value (f.nodes n).ownLabel name =
          (f.ledgers l).value (f.nodes n).ownLabel name + delta := by
    rintro hoverlap w name delta rfl rfl
    rw [← hlabel.mpr hoverlap]
    exact value_adjustCounter_own f w name delta
  refine ⟨hlabel, ⟨?_, ?_⟩, hshared, ?_⟩
  · intro hisolated hoverlap
    -- a call that adds one cannot leave the counter as it was
    let w : Worker := ⟨m, ⟨0⟩, l, ⟨0⟩, ⟨0⟩⟩
    have hsame : ((f.adjustCounter w "" 1).ledgers l).find? (f.nodes n).ownLabel "" =
        (f.ledgers l).find? (f.nodes n).ownLabel "" := hisolated [] (by simp) w "" 1 "" rfl rfl
    have hadded := hshared hoverlap w "" 1 rfl rfl
    rw [Ledger.value, hsame, ← Ledger.value, Int64.left_eq_add] at hadded
    exact absurd hadded (by decide)
  · intro hoverlap calls hcalls w name delta counter hw hl
    subst hw hl
    have hnodes := (sameNodes_foldl hcalls f).nodes
    have hne : ((calls.foldl move f).nodes w.node).ownLabel ≠ (f.nodes n).ownLabel := by
      rw [hnodes]
      exact fun h => hoverlap (hlabel.mp h)
    exact find?_adjustCounter_other hne name delta counter
  · rintro hm hn (h | h)
    · exact Node.not_overlaps hm h
    · exact Node.not_overlaps hn h

def clerk (n : Key Node) : Worker :=
  ⟨n, ⟨0⟩, ⟨2⟩, ⟨0⟩, ⟨0⟩⟩

theorem staffed_kept_apart : (staffed.nodes ⟨1⟩).id ≠ (staffed.nodes ⟨0⟩).id ∧
    ((staffed.adjustCounter (clerk ⟨0⟩) "n" 2).ledgers ⟨2⟩).find? "All T's (1)" "n" =
      some ⟨"All T's (1)", "n", 2⟩ ∧
    (((staffed.adjustCounter (clerk ⟨0⟩) "n" 2).adjustCounter (clerk ⟨1⟩) "n" 5).ledgers ⟨2⟩).find?
      "All T's (1)" "n" = some ⟨"All T's (1)", "n", 2⟩ := by
  have hids : (staffed.nodes ⟨1⟩).id ≠ (staffed.nodes ⟨0⟩).id := by decide +kernel
  obtain ⟨hlabel, hisolated, _⟩ := counters_isolated_iff staffed ⟨2⟩ hids
  have hapart : (staffed.nodes ⟨1⟩).ownLabel ≠ (staffed.nodes ⟨0⟩).ownLabel := by decide +kernel
  have hbefore : ((staffed.adjustCounter (clerk ⟨0⟩) "n" 2).ledgers ⟨2⟩).find? "All T's (1)" "n" =
      some ⟨"All T's (1)", "n", 2⟩ := by decide +kernel
  refine ⟨hids, hbefore, ?_⟩
  rw [← hbefore]
  exact hisolated.mpr (mt hlabel.mpr hapart) [.adjustCounter (clerk ⟨0⟩) "n" 2] (by simp) (clerk ⟨1⟩) "n" 5 "n"
    rfl rfl

def namesakes : Flow :=
  (empty.run [
    .addNode { NodeSpec.blank with id := ⟨"c"⟩, name := "a (b)", componentType := "T" },
    .addNode { NodeSpec.blank with id := ⟨"b) (c"⟩, name := "a", componentType := "T" }]).addLedger.2

theorem namesakes_share_counter : (namesakes.nodes ⟨0⟩).id ≠ (namesakes.nodes ⟨1⟩).id ∧
    (namesakes.nodes ⟨0⟩).ownLabel = (namesakes.nodes ⟨1⟩).ownLabel ∧
    ((namesakes.adjustCounter (clerk ⟨1⟩) "n" 5).ledgers ⟨2⟩).find? "a (b) (c)" "n" =
      some ⟨"a (b) (c)", "n", 5⟩ ∧
    (((namesakes.adjustCounter (clerk ⟨1⟩) "n" 5).adjustCounter (clerk ⟨0⟩) "n" 1).ledgers ⟨2⟩).find?
      "a (b) (c)" "n" = some ⟨"a (b) (c)", "n", 6⟩ := by
  decide +kernel

end Flow

end FlowAdmission
