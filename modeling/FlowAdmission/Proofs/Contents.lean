import FlowAdmission.Pressure.Queue
import Mathlib.Algebra.BigOperators.Group.Multiset.Basic

namespace FlowAdmission.Backlog

inductive Transfer
  | enqueue (size : UInt64)
  | dequeue (size : UInt64)

def transfer (b : Backlog) : Transfer → Backlog
  | .enqueue size => b.enqueue size
  | .dequeue size => (b.dequeue size).2

abbrev Contents := Multiset UInt64

namespace Contents

variable (q : Contents)

def bytes : Nat :=
  (q.map UInt64.toNat).sum

def after : Transfer → Contents
  | .enqueue size => size ::ₘ q
  | .dequeue size => q.erase size

def Allows : Transfer → Prop
  | .enqueue size => Multiset.card q + 1 < UInt64.size ∧ q.bytes + size.toNat < UInt64.size
  | .dequeue size => q ≠ 0 → size ∈ q

def AllowsAll (q : Contents) : List Transfer → Prop
  | [] => True
  | t :: ts => q.Allows t ∧ (q.after t).AllowsAll ts

instance : DecidablePred q.Allows
  | .enqueue size =>
    inferInstanceAs (Decidable (Multiset.card q + 1 < UInt64.size ∧ q.bytes + size.toNat < UInt64.size))
  | .dequeue size => inferInstanceAs (Decidable (q ≠ 0 → size ∈ q))

instance decidableAllowsAll : (q : Contents) → (ts : List Transfer) → Decidable (q.AllowsAll ts)
  | _, [] => isTrue trivial
  | q, t :: ts => @instDecidableAnd _ _ inferInstance (decidableAllowsAll (q.after t) ts)

variable {q}

theorem bytes_cons (size : UInt64) (q : Contents) : bytes (size ::ₘ q) = size.toNat + bytes q := by
  rw [bytes, Multiset.map_cons, Multiset.sum_cons, bytes]

theorem bytes_erase {size : UInt64} (h : size ∈ q) : size.toNat + bytes (q.erase size) = q.bytes := by
  rw [← bytes_cons, Multiset.cons_erase h]

end Contents

variable {b : Backlog} {q : Contents}

structure Holds (b : Backlog) (q : Contents) : Prop where
  objects : b.objects.toNat = Multiset.card q
  bytes : b.bytes.toNat = q.bytes

theorem holds_empty (t : Thresholds) : (empty t).Holds 0 :=
  ⟨rfl, rfl⟩

theorem isEmpty_iff (h : b.Holds q) : b.isEmpty = true ↔ q = 0 := by
  rw [isEmpty, beq_iff_eq, ← Multiset.card_eq_zero, ← h.objects, ← UInt64.toNat_inj]
  rfl

theorem holds_enqueue (h : b.Holds q) {size : UInt64} (hq : q.Allows (.enqueue size)) :
    (b.enqueue size).Holds (size ::ₘ q) where
  objects := by
    have hfits : b.objects.toNat + (1 : UInt64).toNat < UInt64.size := by
      rw [h.objects]
      exact hq.1
    rw [enqueue, UInt64.toNat_add, Nat.mod_eq_of_lt hfits, Multiset.card_cons, h.objects]
    rfl
  bytes := by
    have hfits : b.bytes.toNat + size.toNat < UInt64.size := by
      rw [h.bytes]
      exact hq.2
    rw [enqueue, UInt64.toNat_add, Nat.mod_eq_of_lt hfits, Contents.bytes_cons, h.bytes, Nat.add_comm]

theorem dequeue_empty (h : b.Holds 0) (size : UInt64) : b.dequeue size = (false, b) :=
  if_pos ((isEmpty_iff h).mpr rfl)

theorem dequeue_filled (h : b.Holds q) (hq : q ≠ 0) (size : UInt64) :
    b.dequeue size = (true, { b with
      objects := b.objects - 1
      bytes := if size ≤ b.bytes then b.bytes - size else 0 }) :=
  if_neg (mt (isEmpty_iff h).mp hq)

theorem holds_dequeue (h : b.Holds q) {size : UInt64} (hq : q.Allows (.dequeue size)) :
    (b.dequeue size).2.Holds (q.erase size) := by
  by_cases hne : q = 0
  · subst hne
    rw [dequeue_empty h]
    exact h
  · have hmem := hq hne
    have hbytes := Contents.bytes_erase hmem
    have hcard := Multiset.card_erase_add_one hmem
    rw [dequeue_filled h hne]
    constructor
    · have hone : (1 : UInt64) ≤ b.objects := by
        rw [UInt64.le_iff_toNat_le, h.objects, ← hcard]
        exact Nat.le_add_left 1 _
      rw [UInt64.toNat_sub_of_le _ _ hone, h.objects, ← hcard]
      rfl
    · have hsize : size ≤ b.bytes := by
        rw [UInt64.le_iff_toNat_le, h.bytes, ← hbytes]
        exact Nat.le_add_right _ _
      dsimp only
      rw [if_pos hsize, UInt64.toNat_sub_of_le _ _ hsize, h.bytes, ← hbytes, Nat.add_sub_cancel_left]

theorem holds_transfer (h : b.Holds q) {t : Transfer} (ht : q.Allows t) : (b.transfer t).Holds (q.after t) := by
  cases t with
  | enqueue size => exact holds_enqueue h ht
  | dequeue size => exact holds_dequeue h ht

theorem holds_transfers (h : b.Holds q) {ts : List Transfer} (hts : q.AllowsAll ts) :
    (ts.foldl transfer b).Holds (ts.foldl Contents.after q) := by
  induction ts generalizing b q with
  | nil => exact h
  | cons t ts ih => exact ih (holds_transfer h hts.1) hts.2

theorem thresholds_transfers (b : Backlog) (ts : List Transfer) :
    (ts.foldl transfer b).thresholds = b.thresholds := by
  induction ts generalizing b with
  | nil => rfl
  | cons t ts ih =>
    rw [List.foldl_cons, ih]
    cases t with
    | enqueue size => rfl
    | dequeue size =>
      rw [transfer, dequeue]
      split <;> rfl

theorem reached_iff (bound amount : UInt64) :
    Thresholds.reached bound amount = true ↔ bound ≠ 0 ∧ bound.toNat ≤ amount.toNat := by
  rw [Thresholds.reached, Bool.and_eq_true, decide_eq_true_eq, decide_eq_true_eq, UInt64.pos_iff_ne_zero,
    UInt64.le_iff_toNat_le]

theorem isFull_iff (h : b.Holds q) : b.isFull = true ↔
    (b.thresholds.objects ≠ 0 ∧ b.thresholds.objects.toNat ≤ Multiset.card q) ∨
      (b.thresholds.bytes ≠ 0 ∧ b.thresholds.bytes.toNat ≤ q.bytes) := by
  rw [isFull, Bool.or_eq_true, reached_iff, reached_iff, h.objects, h.bytes]

theorem contents_exact (t : Thresholds) {ts : List Transfer} (hts : Contents.AllowsAll 0 ts) :
    let b := ts.foldl transfer (empty t)
    let q : Contents := ts.foldl Contents.after 0
    b.objects.toNat = Multiset.card q ∧ b.bytes.toNat = (q.map UInt64.toNat).sum ∧
      (∀ size, (b.dequeue size).1 = true ↔ q ≠ 0) ∧
      (q = 0 → ∀ size, (b.dequeue size).2 = b) ∧
      (b.isFull = true ↔ (t.objects ≠ 0 ∧ t.objects.toNat ≤ Multiset.card q) ∨
        (t.bytes ≠ 0 ∧ t.bytes.toNat ≤ (q.map UInt64.toNat).sum)) ∧
      (q = 0 → b.bytes = 0 ∧ b.isFull = false) := by
  dsimp only
  have h := holds_transfers (holds_empty t) hts
  have hthresholds : (ts.foldl transfer (empty t)).thresholds = t := thresholds_transfers (empty t) ts
  generalize ts.foldl transfer (empty t) = b at *
  generalize ts.foldl Contents.after 0 = q at *
  have hfull := isFull_iff h
  rw [hthresholds] at hfull
  refine ⟨h.objects, h.bytes, ?_, ?_, hfull, ?_⟩
  · intro size
    by_cases hq : q = 0
    · subst hq
      simp [dequeue_empty h]
    · simp [dequeue_filled h hq, hq]
  · rintro rfl size
    rw [dequeue_empty h]
  · rintro rfl
    have hzero : b.bytes = 0 := UInt64.toNat_inj.mp h.bytes
    refine ⟨hzero, ?_⟩
    rw [← Bool.not_eq_true, hfull]
    rintro (⟨hne, hle⟩ | ⟨hne, hle⟩)
    · exact hne (UInt64.toNat_inj.mp (Nat.le_zero.mp hle))
    · exact hne (UInt64.toNat_inj.mp (Nat.le_zero.mp hle))

def transfers : List Transfer :=
  [.dequeue 7, .enqueue 3, .enqueue 18446744073709551612, .dequeue 18446744073709551612, .dequeue 3]

theorem transfers_drain : Contents.AllowsAll 0 transfers ∧
    (transfers.foldl transfer (empty ⟨1, 1⟩)).bytes = 0 ∧
    (transfers.foldl transfer (empty ⟨1, 1⟩)).isFull = false := by
  have hallowed : Contents.AllowsAll 0 transfers := by decide +kernel
  have hdrained := (contents_exact ⟨1, 1⟩ hallowed).2.2.2.2.2 (by decide +kernel)
  exact ⟨hallowed, hdrained⟩

end FlowAdmission.Backlog
