import FlowAdmission.Proofs.Counting
import FlowAdmission.Proofs.Runs

namespace FlowAdmission

namespace Scan

variable {α : Type} (isAvailable : α → Bool)

theorem finding_answer (rs : List α) :
    (finding isAvailable rs).answer = true ↔ ∃ r ∈ rs, isAvailable r = true := by
  induction rs with
  | nil => simp [finding]
  | cons r rs ih =>
    rw [finding]
    cases hr : isAvailable r with
    | true => simp [hr]
    | false => simpa [answer_afterOne, hr] using ih

theorem anyAvailable_eq_satisfied_one (rs : List α) :
    (anyAvailable isAvailable rs).answer = (satisfied isAvailable 1 rs).answer := by
  rw [Bool.eq_iff_iff, satisfied_iff, Nat.succ_le_iff, List.countP_pos_iff]
  cases rs with
  | nil => simp [anyAvailable]
  | cons r rs =>
    rw [anyAvailable, if_neg (by simp), finding_answer]
    constructor
    · exact .inl
    · rintro (h | h)
      · exact h
      · exact ⟨r, List.mem_cons_self, h r List.mem_cons_self⟩

end Scan

namespace Node

variable {n : Node} {full : Key Queue → Bool}

def isOpen (full : Key Queue → Bool) (n : Node) (r : Relationship) : Bool :=
  (n.edgesOf r).all (Edge.isAvailable full)

def closed (full : Key Queue → Bool) (n : Node) : Nat :=
  Scan.unavailable (n.isOpen full) n.relationships

theorem isOpen_iff (r : Relationship) :
    n.isOpen full r = true ↔ ∀ e ∈ n.edgesOf r, e.isAvailable full = true :=
  List.all_eq_true

theorem satisfied_eq (full : Key Queue → Bool) (n : Node) (required : Nat) :
    n.satisfied full required = Scan.satisfied (n.isOpen full) required n.relationships :=
  Scan.satisfied_map _ _ required n.relationships

theorem satisfied_iff_closed (required : Nat) :
    (n.satisfied full required).answer = true ↔
      required + n.closed full ≤ n.relationships.length ∨ n.closed full = 0 := by
  rw [satisfied_eq, Scan.satisfied_answer, closed]

theorem anyAvailable_eq_satisfied (full : Key Queue → Bool) (n : Node) :
    (n.anyAvailable full).answer = (n.satisfied full 1).answer :=
  Scan.anyAvailable_eq_satisfied_one _ n.wiring.outlets

theorem mem_outgoing {e : Edge} : e ∈ n.outgoing ↔ ∃ r ∈ n.relationships, e ∈ n.edgesOf r := by
  rw [outgoing, Wiring.outgoing_eq, List.mem_flatMap]
  rfl

theorem mem_outgoing_iff (h : n.Sound) {e : Edge} : e ∈ n.outgoing ↔ ∃ r, e ∈ n.edgesOf r := by
  rw [outgoing, Wiring.mem_outgoing h.wiring]
  constructor
  · intro he
    exact ⟨e.relationship, (Wiring.mem_edgesOf h.wiring).mpr ⟨he, rfl⟩⟩
  · rintro ⟨r, he⟩
    exact ((Wiring.mem_edgesOf h.wiring).mp he).1

theorem closed_eq_zero : n.closed full = 0 ↔ ∀ e ∈ n.outgoing, e.isAvailable full = true := by
  rw [closed, Scan.unavailable_eq_zero]
  constructor
  · intro h e he
    obtain ⟨r, hr, her⟩ := mem_outgoing.mp he
    exact (isOpen_iff r).mp (h r hr) e her
  · intro h r hr
    rw [isOpen_iff]
    intro e he
    exact h e (mem_outgoing.mpr ⟨r, hr, he⟩)

theorem satisfied_all (h : n.closed full = 0) (required : Nat) :
    (n.satisfied full required).answer = true :=
  (satisfied_iff_closed required).mpr (.inr h)

theorem satisfied_length :
    (n.satisfied full n.relationships.length).answer = true ↔ n.closed full = 0 := by
  rw [satisfied_iff_closed]
  omega

theorem anyFull_iff : n.anyFull full = true ↔ ∃ e ∈ n.outgoing, e.isFull full = true :=
  List.any_eq_true

theorem closed_of_not_anyFull (h : n.anyFull full = false) : n.closed full = 0 := by
  rw [closed_eq_zero]
  intro e he
  have hfree : e.isFull full = false := by
    rw [← Bool.not_eq_true]
    intro hfull
    rw [anyFull_iff.mpr ⟨e, he, hfull⟩] at h
    exact Bool.noConfusion h
  rw [Edge.isAvailable, hfree, Bool.not_false, Bool.or_true]

theorem anyFull_iff_closed : n.anyFull full = true ↔
    n.closed full ≠ 0 ∨ ∃ e ∈ n.outgoing, e.isSelfLoop = true ∧ e.isFull full = true := by
  constructor
  · intro hany
    by_cases hclosed : n.closed full = 0
    · right
      obtain ⟨e, he, hfull⟩ := anyFull_iff.mp hany
      have havailable := closed_eq_zero.mp hclosed e he
      rw [Edge.isAvailable, hfull, Bool.not_true, Bool.or_false] at havailable
      exact ⟨e, he, havailable, hfull⟩
    · exact .inl hclosed
  · rintro (hclosed | ⟨e, he, _, hfull⟩)
    · by_contra hany
      exact hclosed (closed_of_not_anyFull (by simpa using hany))
    · exact anyFull_iff.mpr ⟨e, he, hfull⟩

theorem heedsAny_iff : n.heedsAny = true ↔ n.category = .processor ∧ n.triggersOnAny = true := by
  simp [heedsAny]

theorem isRestricted_any (h : n.heedsAny = true) :
    n.isRestricted full = true ↔ (n.satisfied full 1).answer = false := by
  rw [isRestricted, if_pos h, anyAvailable_eq_satisfied, Bool.not_eq_true']

theorem isRestricted_all (h : n.heedsAny = false) :
    n.isRestricted full = true ↔ n.anyFull full = true := by
  rw [isRestricted, if_neg (by simp [h])]

theorem closed_of_unrestricted (h : n.heedsAny = false) (hfree : n.isRestricted full = false) :
    n.closed full = 0 := by
  apply closed_of_not_anyFull
  rw [← Bool.not_eq_true, ← isRestricted_all h, hfree]
  exact Bool.false_ne_true

theorem satisfied_of_unrestricted (hfree : n.isRestricted full = false) :
    (n.satisfied full 1).answer = true := by
  cases h : n.heedsAny with
  | true =>
    by_contra hone
    rw [(isRestricted_any h).mpr (by simpa using hone)] at hfree
    exact Bool.noConfusion hfree
  | false => exact satisfied_all (closed_of_unrestricted h hfree) 1

end Node

namespace Flow

variable {f : Flow}

theorem restriction_agrees_with_admission (hf : f.Reachable) (queues : Store Queue) (w : Worker) :
    let g : Flow := { f with queues }
    let n := f.nodes w.node
    let anyMode := n.category = .processor ∧ n.triggersOnAny = true
    (n.anyAvailable g.isFull).answer = g.mayRun w 1 ∧
      (anyMode → (g.isRestricted w = true ↔ g.mayRun w 1 = false)) ∧
      (¬ anyMode → (g.isRestricted w = true ↔
        g.mayRun w n.relationships.length = false ∨
          ∃ r, ∃ e ∈ n.edgesOf r, e.source = e.destination ∧ (queues e.queue).isFull = true)) ∧
      (g.isRestricted w = false →
        g.mayRun w 1 = true ∧ (¬ anyMode → ∀ required, g.mayRun w required = true)) := by
  dsimp only
  have hsound := hf.sound w.node
  rw [← Node.heedsAny_iff]
  refine ⟨Node.anyAvailable_eq_satisfied _ _, Node.isRestricted_any, ?_, ?_⟩
  · intro hany
    have hany : (f.nodes w.node).heedsAny = false := by simpa using hany
    have hall : mayRun { f with queues } w (f.nodes w.node).relationships.length = false ↔
        (f.nodes w.node).closed (isFull { f with queues }) ≠ 0 := by
      rw [← Bool.not_eq_true]
      exact not_congr Node.satisfied_length
    have hloop : (∃ r, ∃ e ∈ (f.nodes w.node).edgesOf r,
          e.source = e.destination ∧ (queues e.queue).isFull = true) ↔
        ∃ e ∈ (f.nodes w.node).outgoing,
          e.isSelfLoop = true ∧ e.isFull (isFull { f with queues }) = true := by
      simp only [Node.mem_outgoing_iff hsound, Edge.isSelfLoop, beq_iff_eq]
      constructor
      · rintro ⟨r, e, he, hloop, hfull⟩
        exact ⟨e, ⟨r, he⟩, hloop, hfull⟩
      · rintro ⟨e, ⟨r, he⟩, hloop, hfull⟩
        exact ⟨r, e, he, hloop, hfull⟩
    rw [hall, hloop]
    exact (Node.isRestricted_all hany).trans Node.anyFull_iff_closed
  · intro hfree
    refine ⟨Node.satisfied_of_unrestricted hfree, ?_⟩
    intro hany required
    exact Node.satisfied_all (Node.closed_of_unrestricted (by simpa using hany) hfree) required

def looping : List Action := [
  .addNode { NodeSpec.blank with id := ⟨"p"⟩, relationships := [.named "out", .named "retry"] },
  .addNode { NodeSpec.blank with id := ⟨"down"⟩ },
  .addQueue (.backlog ⟨.ofObjects 1, 1, 5⟩),
  .connect ⟨0⟩ ⟨1⟩ ⟨"x"⟩ (.named "out") ⟨2⟩,
  .connect ⟨0⟩ ⟨0⟩ ⟨"y"⟩ (.named "retry") ⟨2⟩]

def looped : Flow :=
  empty.run looping

def loopedAny : Flow :=
  empty.run (looping ++ [.setTriggersOnAny ⟨0⟩ true])

theorem reachable_looped : looped.Reachable :=
  ⟨empty, _, isNew_empty, rfl⟩

theorem reachable_loopedAny : loopedAny.Reachable :=
  ⟨empty, _, isNew_empty, rfl⟩

def firstWorker : Worker :=
  ⟨⟨0⟩, ⟨0⟩, ⟨0⟩, ⟨0⟩, ⟨0⟩⟩

theorem looped_restricted_loopedAny_free :
    let full : Store Queue := fun _ => .switch true
    mayRun { looped with queues := full } firstWorker 2 = false ∧
      isRestricted { looped with queues := full } firstWorker = true ∧
      isRestricted { loopedAny with queues := full } firstWorker = false ∧
      mayRun { loopedAny with queues := full } firstWorker 1 = true := by
  intro full
  obtain ⟨_, _, hall, _⟩ := restriction_agrees_with_admission reachable_looped full firstWorker
  obtain ⟨_, hany, _, hfree⟩ := restriction_agrees_with_admission reachable_loopedAny full firstWorker
  have htwo : mayRun { looped with queues := full } firstWorker 2 = false := by decide +kernel
  have hone : mayRun { loopedAny with queues := full } firstWorker 1 = true := by decide +kernel
  have hunrestricted : isRestricted { loopedAny with queues := full } firstWorker = false := by
    rw [← Bool.not_eq_true]
    intro hrestricted
    have hnone := (hany (by decide +kernel)).mp hrestricted
    exact Bool.noConfusion (hone.symm.trans hnone)
  exact ⟨htwo, (hall (by decide +kernel)).mpr (.inl htwo), hunrestricted, (hfree hunrestricted).1⟩

end Flow

end FlowAdmission
