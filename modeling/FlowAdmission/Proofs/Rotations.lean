import FlowAdmission.Proofs.DoubleEntry
import FlowAdmission.Proofs.Steps

namespace FlowAdmission

def Step.DrawsFrom (k : Key Rotation) : Step → Prop
  | .move (.advance w) => w.rotation = k
  | .move (.nextIndex w) => w.rotation = k
  | _ => False

instance {k : Key Rotation} : DecidablePred (Step.DrawsFrom k)
  | .move (.advance w) => inferInstanceAs (Decidable (w.rotation = k))
  | .move (.nextIndex w) => inferInstanceAs (Decidable (w.rotation = k))
  | .move (.act _) | .move (.addWorker ..) | .move (.addTasks ..) | .move (.poll _)
  | .move (.adjustCounter ..) | .move (.draw _) | .look _ => inferInstanceAs (Decidable False)

namespace Flow

variable {f g h : Flow} {k : Key Rotation} {s t : Step} {ss : List Step}

def drawn (f : Flow) (k : Key Rotation) : List Step → List (Flow × Step)
  | [] => []
  | s :: ss => if s.DrawsFrom k then (f, s) :: (f.step s).drawn k ss else (f.step s).drawn k ss

theorem rotation_addWorker {shared : Shared} (hshared : shared.rotation = some k) (f : Flow) (n : Key Node)
    (recording : Bool) : (f.addWorker n shared recording).1.rotation = k := by
  obtain ⟨rotation, ledger, sequence⟩ := shared
  cases hshared
  cases ledger <;> cases sequence <;> rfl

theorem rotation_addTasks (f : Flow) (n : Key Node) (ledger : Key Ledger) (recording : Bool) :
    (f.addTasks n ledger recording).1.length = (f.nodes n).tasks.toNat ∧
      (∀ w ∈ (f.addTasks n ledger recording).1, w.rotation = ⟨f.names⟩) ∧
      ((f.addTasks n ledger recording).2.rotations ⟨f.names⟩).count = 0 := by
  refine ⟨List.length_replicate, ?_, ?_⟩
  · intro w hw
    rw [List.eq_of_mem_replicate hw]
  · exact congrArg Rotation.count (Store.set_same f.rotations ⟨f.names⟩ ⟨0⟩)

theorem rotations_addWorker (hk : k.number < f.names) (n : Key Node) (shared : Shared) (recording : Bool) :
    (f.addWorker n shared recording).2.rotations k = f.rotations k := by
  have hnew : f.rotations.set ⟨f.names⟩ ⟨0⟩ k = f.rotations k := by
    apply Store.set_other
    rintro rfl
    exact Nat.lt_irrefl f.names hk
  obtain ⟨rotation, ledger, sequence⟩ := shared
  cases rotation with
  | some k' => cases ledger <;> cases sequence <;> rfl
  | none => cases ledger <;> cases sequence <;> exact hnew

theorem rotations_poll (f : Flow) (w : Worker) : (f.poll w).2.rotations = f.rotations := by
  rw [poll]
  dsimp only
  split <;> rfl

theorem rotations_set (w : Worker) (r : Rotation) (hr : r.count = (f.rotations w.rotation).count + 1) :
    (f.rotations.set w.rotation r k).count =
      if w.rotation = k then (f.rotations k).count + 1 else (f.rotations k).count := by
  split
  · rename_i hw
    rw [← hw, Store.set_same, hr]
  · rename_i hw
    rw [Store.set_other _ _ (Ne.symm hw)]

theorem count_step (hk : k.number < f.names) (s : Step) : ((f.step s).rotations k).count =
    if s.DrawsFrom k then (f.rotations k).count + 1 else (f.rotations k).count := by
  cases s with
  | look q => rfl
  | move m =>
    cases m with
    | act a =>
      have hframe := congrArg (fun f : Flow => (f.rotations k).count) (act_frame f a).2
      exact hframe
    | addWorker n shared recording => exact congrArg Rotation.count (rotations_addWorker hk n shared recording)
    | addTasks n ledger recording =>
      exact congrArg Rotation.count (rotations_addWorker hk n ⟨none, some ledger, none⟩ recording)
    | poll w => exact congrArg (fun s : Store Rotation => (s k).count) (rotations_poll f w)
    | advance w => exact rotations_set w _ rfl
    | nextIndex w => exact rotations_set w _ rfl
    | adjustCounter w name delta => rfl
    | draw w => rfl

theorem names_le_step (f : Flow) (s : Step) : f.names ≤ (f.step s).names := by
  cases s with
  | look q => exact Nat.le_refl f.names
  | move m => exact names_le_move f m

theorem toNat_count_step (hk : k.number < f.names) (hs : s.DrawsFrom k) :
    ((f.step s).rotations k).count.toNat = ((f.rotations k).count.toNat + 1) % UInt64.size := by
  rw [count_step hk, if_pos hs]
  exact UInt64.toNat_add _ _

theorem drawn_count (hk : k.number < f.names) {i : Nat} (hi : (f.drawn k ss)[i]? = some (g, s)) :
    s.DrawsFrom k ∧ (g.rotations k).count.toNat = ((f.rotations k).count.toNat + i) % UInt64.size := by
  induction ss generalizing f i with
  | nil => cases hi
  | cons t ss ih =>
    have hlater : k.number < (f.step t).names := Nat.lt_of_lt_of_le hk (names_le_step f t)
    rw [drawn] at hi
    split at hi
    · rename_i ht
      cases i with
      | zero =>
        cases hi
        exact ⟨ht, (Nat.mod_eq_of_lt (UInt64.toNat_lt_size _)).symm⟩
      | succ i =>
        obtain ⟨hs, hcount⟩ := ih hlater hi
        rw [toNat_count_step hk ht, Nat.mod_add_mod, Nat.add_assoc, Nat.add_comm 1 i] at hcount
        exact ⟨hs, hcount⟩
    · rename_i ht
      have hstep := count_step hk t
      rw [if_neg ht] at hstep
      rw [← hstep]
      exact ih hlater hi

theorem after_count (hk : k.number < f.names) (ss : List Step) : ((f.after ss).rotations k).count.toNat =
    ((f.rotations k).count.toNat + (f.drawn k ss).length) % UInt64.size := by
  induction ss generalizing f with
  | nil => exact (Nat.mod_eq_of_lt (f.rotations k).count.toNat_lt_size).symm
  | cons t ss ih =>
    have hlater : k.number < (f.step t).names := Nat.lt_of_lt_of_le hk (names_le_step f t)
    have hcount := ih hlater
    rw [after, List.foldl_cons, ← after, drawn]
    split
    · rename_i ht
      rw [hcount, toNat_count_step hk ht, Nat.mod_add_mod, Nat.add_assoc, Nat.add_comm 1, List.length_cons]
    · rename_i ht
      rw [hcount, count_step hk t, if_neg ht]

/-- What a draw in `g` answers when it is the one with number `i`: the raw value, or its remainder as a
position among the edges that come in at that moment. -/
structure Drawn (start : UInt64) (k : Key Rotation) (i : Nat) (g : Flow) (s : Step) : Prop where
  raw : (g.rotations k).count.toNat = (start.toNat + i) % UInt64.size
  advance : ∀ w, s = .move (.advance w) → g.answer s = .word (g.rotations k).count
  index : ∀ w, s = .move (.nextIndex w) →
    let n := (g.nodes w.node).incoming.length
    ∃ j, g.answer s = .index j ∧ j = (g.rotations k).count.toNat % max 1 n ∧ (0 < n → j < n) ∧ (n = 0 → j = 0)

theorem drawn_answers (hs : s.DrawsFrom k) {start : UInt64} {i : Nat}
    (hcount : (g.rotations k).count.toNat = (start.toNat + i) % UInt64.size) : Drawn start k i g s where
  raw := hcount
  advance w hw := by
    subst hw
    obtain rfl : w.rotation = k := hs
    rfl
  index w hw := by
    subst hw
    obtain rfl : w.rotation = k := hs
    refine ⟨(g.rotations w.rotation).count.toNat % max 1 (g.nodes w.node).incoming.length, rfl, rfl,
      fun hn => ?_, fun hn => ?_⟩
    · rw [Nat.max_eq_right hn]
      exact Nat.mod_lt _ hn
    · rw [hn]
      exact Nat.mod_one _

/-- All draws from one rotation, by whatever workers and between whatever other steps, take its values in
turn. None comes twice in 2^64 draws, and nothing but draws moves the rotation. A worker takes the rotation
it is given, and the workers made for the tasks of a node share a new one. -/
theorem rotation_in_turn (hk : k.number < f.names) (ss : List Step) :
    (∀ i g s, (f.drawn k ss)[i]? = some (g, s) → Drawn (f.rotations k).count k i g s) ∧
    (∀ i j g h s t, (f.drawn k ss)[i]? = some (g, s) → (f.drawn k ss)[j]? = some (h, t) →
      i < j → j < i + UInt64.size → (g.rotations k).count ≠ (h.rotations k).count) ∧
    ((f.after ss).rotations k).count.toNat =
      ((f.rotations k).count.toNat + (f.drawn k ss).length) % UInt64.size ∧
    (∀ (g : Flow) (s : Step), k.number < g.names → ¬ s.DrawsFrom k → (g.step s).rotations k = g.rotations k) ∧
    (∀ (g : Flow) (n : Key Node) (shared : Shared) (recording : Bool),
      shared.rotation = some k → (g.addWorker n shared recording).1.rotation = k) ∧
    ∀ (g : Flow) (n : Key Node) (ledger : Key Ledger) (recording : Bool),
      (g.addTasks n ledger recording).1.length = (g.nodes n).tasks.toNat ∧
        (∀ w ∈ (g.addTasks n ledger recording).1, w.rotation = ⟨g.names⟩) ∧
        ((g.addTasks n ledger recording).2.rotations ⟨g.names⟩).count = 0 := by
  refine ⟨fun i g s hi => ?_, fun i j g h s t hi hj hlt hnear heq => ?_, after_count hk ss, fun g s hg hs => ?_,
    fun g n shared recording hshared => rotation_addWorker hshared g n recording, rotation_addTasks⟩
  · obtain ⟨hs, hcount⟩ := drawn_count hk hi
    exact drawn_answers hs hcount
  · have hi := (drawn_count hk hi).2
    have hj := (drawn_count hk hj).2
    have hsize : UInt64.size = 18446744073709551616 := rfl
    rw [heq, hj, hsize] at hi
    rw [hsize] at hnear
    omega
  · have hstep := count_step hg s
    rw [if_neg hs] at hstep
    exact congrArg Rotation.mk hstep

def turning : Flow :=
  ((empty.addNode { NodeSpec.blank with id := ⟨"n"⟩ }).2.addRotation ⟨18446744073709551615⟩).2

def turner : Worker :=
  ⟨⟨0⟩, ⟨1⟩, ⟨2⟩, ⟨3⟩, ⟨4⟩⟩

def feed (id : String) : Step :=
  .move (.act (.ask ⟨0⟩ (.attachIncoming ⟨⟨id⟩, ⟨"m"⟩, ⟨"n"⟩, .named "r", ⟨0⟩⟩)))

def mixedDraws : List Step :=
  [.move (.nextIndex turner), feed "a", .move (.advance { turner with meter := ⟨5⟩ }), feed "b",
    .look (.isRestricted turner), .move (.nextIndex turner)]

theorem turning_wraps : ∃ g, (turning.drawn ⟨1⟩ mixedDraws)[2]? = some (g, .move (.nextIndex turner)) ∧
    (g.nodes ⟨0⟩).incoming.length = 2 ∧ g.answer (.move (.nextIndex turner)) = .index 1 := by
  have hdraw : (turning.drawn ⟨1⟩ mixedDraws)[2]? =
      some (turning.after (mixedDraws.take 5), .move (.nextIndex turner)) := rfl
  have hlength : ((turning.after (mixedDraws.take 5)).nodes ⟨0⟩).incoming.length = 2 := rfl
  have hdrawn := (rotation_in_turn (f := turning) (k := ⟨1⟩) (by decide) mixedDraws).1 2 _ _ hdraw
  obtain ⟨j, hanswer, hj, _⟩ := hdrawn.index turner rfl
  have hraw : ((turning.after (mixedDraws.take 5)).rotations ⟨1⟩).count.toNat = 1 := hdrawn.raw
  have hone : 1 % max 1 2 = 1 := rfl
  rw [hraw, show turner.node = ⟨0⟩ from rfl, hlength, hone] at hj
  rw [hj] at hanswer
  exact ⟨_, hdraw, hlength, hanswer⟩

end Flow

end FlowAdmission
