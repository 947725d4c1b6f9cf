import FlowAdmission.Proofs.Contents
import Mathlib.Algebra.Ring.Nat

namespace FlowAdmission.Backlog

def TakesNothing (b : Backlog) : List Transfer → Prop
  | [] => True
  | .enqueue size :: ts => (b.enqueue size).TakesNothing ts
  | .dequeue size :: ts => (b.dequeue size).1 = false ∧ (b.dequeue size).2.TakesNothing ts

def arrivals : List Transfer → List UInt64
  | [] => []
  | .enqueue size :: ts => size :: arrivals ts
  | .dequeue _ :: ts => arrivals ts

variable {b : Backlog} {ts : List Transfer}

theorem dequeue_refused {size : UInt64} (h : (b.dequeue size).1 = false) : (b.dequeue size).2 = b := by
  rw [dequeue] at h ⊢
  split
  · rfl
  · rename_i hfilled
    rw [if_neg hfilled] at h
    exact absurd h (by simp)

theorem transfers_arrivals (h : b.TakesNothing ts) : ts.foldl transfer b = (arrivals ts).foldl enqueue b := by
  induction ts generalizing b with
  | nil => rfl
  | cons t ts ih =>
    cases t with
    | enqueue size => exact ih h
    | dequeue size =>
      obtain ⟨hrefused, hrest⟩ := h
      rw [List.foldl_cons, transfer, ih hrest, dequeue_refused hrefused, arrivals]

theorem objects_arrivals (b : Backlog) (sizes : List UInt64) :
    (sizes.foldl enqueue b).objects.toNat = (b.objects.toNat + sizes.length) % UInt64.size := by
  induction sizes generalizing b with
  | nil => exact (Nat.mod_eq_of_lt b.objects.toNat_lt_size).symm
  | cons size sizes ih =>
    have hone : (b.enqueue size).objects.toNat = (b.objects.toNat + 1) % UInt64.size := UInt64.toNat_add _ _
    rw [List.foldl_cons, ih, hone, Nat.mod_add_mod, List.length_cons, Nat.add_assoc, Nat.add_comm 1]

theorem bytes_arrivals (b : Backlog) (sizes : List UInt64) :
    (sizes.foldl enqueue b).bytes.toNat = (b.bytes.toNat + (sizes.map UInt64.toNat).sum) % UInt64.size := by
  induction sizes generalizing b with
  | nil => exact (Nat.mod_eq_of_lt b.bytes.toNat_lt_size).symm
  | cons size sizes ih =>
    have hone : (b.enqueue size).bytes.toNat = (b.bytes.toNat + size.toNat) % UInt64.size := UInt64.toNat_add _ _
    rw [List.foldl_cons, ih, hone, Nat.mod_add_mod, List.map_cons, List.sum_cons, Nat.add_assoc]

/-- Arrivals lift back pressure only by taking a count past its greatest value: what a threshold is then
compared with is the rest of the total. -/
theorem full_after_arrivals_iff (t : Thresholds) (past : List Transfer) {ts : List Transfer}
    (hts : (past.foldl transfer (empty t)).TakesNothing ts) :
    let b := past.foldl transfer (empty t)
    let later := ts.foldl transfer b
    let objects := b.objects.toNat + (arrivals ts).length
    let bytes := b.bytes.toNat + ((arrivals ts).map UInt64.toNat).sum
    (later.isFull = true ↔ (t.objects ≠ 0 ∧ t.objects.toNat ≤ objects % UInt64.size) ∨
        (t.bytes ≠ 0 ∧ t.bytes.toNat ≤ bytes % UInt64.size)) ∧
      (Thresholds.reached t.objects b.objects = true → objects < UInt64.size → later.isFull = true) ∧
      (Thresholds.reached t.bytes b.bytes = true → bytes < UInt64.size → later.isFull = true) := by
  dsimp only
  have hthresholds : (ts.foldl transfer (past.foldl transfer (empty t))).thresholds = t := by
    rw [thresholds_transfers, thresholds_transfers]
    rfl
  rw [transfers_arrivals hts] at hthresholds ⊢
  generalize past.foldl transfer (empty t) = b at hthresholds ⊢
  have hfull : ((arrivals ts).foldl enqueue b).isFull = true ↔
      (t.objects ≠ 0 ∧ t.objects.toNat ≤ (b.objects.toNat + (arrivals ts).length) % UInt64.size) ∨
        (t.bytes ≠ 0 ∧ t.bytes.toNat ≤ (b.bytes.toNat + ((arrivals ts).map UInt64.toNat).sum) % UInt64.size) := by
    rw [isFull, Bool.or_eq_true, reached_iff, reached_iff, hthresholds, objects_arrivals, bytes_arrivals]
  refine ⟨hfull, ?_, ?_⟩
  · intro hreached hfits
    obtain ⟨hbound, hle⟩ := (reached_iff _ _).mp hreached
    rw [hfull, Nat.mod_eq_of_lt hfits]
    exact Or.inl ⟨hbound, Nat.le_add_right_of_le hle⟩
  · intro hreached hfits
    obtain ⟨hbound, hle⟩ := (reached_iff _ _).mp hreached
    rw [hfull, Nat.mod_eq_of_lt hfits]
    exact Or.inr ⟨hbound, Nat.le_add_right_of_le hle⟩

theorem leftover_stays_full :
    let past : List Transfer := [.enqueue 9, .dequeue 2]
    let later : List Transfer := [.dequeue 1, .enqueue 18446744073709551608]
    (past.foldl transfer (empty ⟨0, 5⟩)).isFull = true ∧
      (past.foldl transfer (empty ⟨0, 5⟩)).TakesNothing later ∧
      (later.foldl transfer (past.foldl transfer (empty ⟨0, 5⟩))).isFull = true := by
  have htakes : ([.enqueue 9, .dequeue 2].foldl transfer (empty ⟨0, 5⟩)).TakesNothing
      [.dequeue 1, .enqueue 18446744073709551608] := ⟨by decide, trivial⟩
  have hstays := (full_after_arrivals_iff ⟨0, 5⟩ [.enqueue 9, .dequeue 2] htakes).2.2
  exact ⟨by decide, htakes, hstays (by decide) (by decide +kernel)⟩

theorem one_arrival_lifts_fullness :
    ((empty ⟨0, 5⟩).enqueue 5).isFull = true ∧
      (((empty ⟨0, 5⟩).enqueue 5).enqueue 18446744073709551611).isFull = false := by
  decide

end FlowAdmission.Backlog
