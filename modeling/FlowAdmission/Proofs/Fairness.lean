import FlowAdmission.Admission.Rotation
import Mathlib.Data.Int.CardIntervalMod

namespace FlowAdmission.Rotation

def draws (r : Rotation) (length : Nat) : Nat → List Nat
  | 0 => []
  | n + 1 => (r.next length).1 :: draws (r.next length).2 length n

def turns (first length n : Nat) : List Nat :=
  (List.range' first n).map (· % length)

def Follows (length : Nat) (positions : List Nat) (i : Nat) : Prop :=
  positions[i + 1]? = positions[i]?.map (fun position => (position + 1) % length)

variable {r : Rotation} {length n : Nat}

theorem length_draws (r : Rotation) (length n : Nat) : (r.draws length n).length = n := by
  induction n generalizing r with
  | zero => rfl
  | succ n ih => simp [draws, ih]

theorem length_turns (first length n : Nat) : (turns first length n).length = n := by
  simp [turns]

theorem toNat_next (r : Rotation) (length : Nat) :
    (r.next length).2.count.toNat = (r.count.toNat + 1) % UInt64.size :=
  UInt64.toNat_add _ _

theorem getElem_draws (hlength : 0 < length) {i : Nat} (hi : i < (r.draws length n).length) :
    (r.draws length n)[i] = (r.count.toNat + i) % UInt64.size % length := by
  induction n generalizing r i with
  | zero => simp [draws] at hi
  | succ n ih =>
    cases i with
    | zero =>
      have hcount := Nat.mod_eq_of_lt r.count.toNat_lt_size
      simp [draws, next, hcount, Nat.max_eq_right hlength]
    | succ i =>
      simp only [draws, List.getElem_cons_succ]
      rw [ih, toNat_next, Nat.mod_add_mod, Nat.add_assoc, Nat.add_comm 1 i]

theorem getElem_turns {first i : Nat} (hi : i < (turns first length n).length) :
    (turns first length n)[i] = (first + i) % length := by
  simp [turns]

theorem mod_size {x : Nat} (h : UInt64.size ≤ x) (hx : x < 2 * UInt64.size) :
    x % UInt64.size = x - UInt64.size := by
  rw [Nat.mod_eq_sub_mod h, Nat.mod_eq_of_lt (by omega)]

theorem draws_eq_turns (hlength : 0 < length)
    (h : r.count.toNat + n ≤ UInt64.size ∨ length ∣ UInt64.size) :
    r.draws length n = turns r.count.toNat length n := by
  apply List.ext_getElem
  · rw [length_draws, length_turns]
  · intro i hi _
    rw [getElem_draws hlength hi, getElem_turns]
    rw [length_draws] at hi
    rcases h with hbefore | hdivides
    · rw [Nat.mod_eq_of_lt (by omega : r.count.toNat + i < UInt64.size)]
    · rw [Nat.mod_mod_of_dvd _ hdivides]

theorem draws_wrapped (hlength : 0 < length) (h : UInt64.size < r.count.toNat + n) (hn : n ≤ UInt64.size) :
    r.draws length n = turns r.count.toNat length (UInt64.size - r.count.toNat) ++
      turns 0 length (r.count.toNat + n - UInt64.size) := by
  have hcount := r.count.toNat_lt_size
  apply List.ext_getElem
  · rw [List.length_append, length_draws, length_turns, length_turns]
    omega
  · intro i hi _
    rw [getElem_draws hlength hi, List.getElem_append]
    rw [length_draws] at hi
    -- past the greatest count the draws begin again at zero
    split
    · rename_i hfirst
      rw [length_turns] at hfirst
      rw [getElem_turns, Nat.mod_eq_of_lt (by omega : r.count.toNat + i < UInt64.size)]
    · rename_i hfirst
      rw [length_turns] at hfirst
      have hplace : 0 + (i - (UInt64.size - r.count.toNat)) = r.count.toNat + i - UInt64.size := by omega
      simp only [getElem_turns, length_turns]
      rw [mod_size (by omega) (by omega), hplace]

theorem count_turns (first n : Nat) {position : Nat} (h : position < length) :
    first.count (· ≡ position [MOD length]) + (turns first length n).count position =
      (first + n).count (· ≡ position [MOD length]) := by
  have hposition (i : Nat) : (first + i) % length == position ↔ first + i ≡ position [MOD length] := by
    rw [beq_iff_eq, Nat.ModEq, Nat.mod_eq_of_lt h]
  rw [Nat.count_add, turns, List.range'_eq_map_range, List.map_map, List.count, List.countP_map, Nat.count]
  congr 1
  apply List.countP_congr
  intro i _
  simpa using hposition i

theorem turns_fair (first n : Nat) {i j : Nat} (hi : i < length) (hj : j < length) :
    (turns first length n).count i ≤ (turns first length n).count j + 1 := by
  have hcounti := count_turns first n hi
  have hcountj := count_turns first n hj
  have hlength : 0 < length := by omega
  simp only [Nat.count_modEq_card _ hlength, Nat.mod_eq_of_lt hi, Nat.mod_eq_of_lt hj] at hcounti hcountj
  -- a position matters only by where it stands to the remainders of the two ends
  split at hcounti <;> split at hcounti <;> split at hcountj <;> split at hcountj <;> omega

theorem draws_wrapped_fair (hn : n ≤ UInt64.size) {i j : Nat} (hi : i < length) (hj : j < length) :
    (r.draws length n).count i ≤ (r.draws length n).count j + 2 := by
  have hlength : 0 < length := by omega
  by_cases h : r.count.toNat + n ≤ UInt64.size
  · have hfair := turns_fair r.count.toNat n hi hj
    rw [draws_eq_turns hlength (Or.inl h)]
    omega
  · -- each of the two rotations may favour a position by one
    have hbefore := turns_fair r.count.toNat (UInt64.size - r.count.toNat) hi hj
    have hafter := turns_fair 0 (r.count.toNat + n - UInt64.size) hi hj
    rw [draws_wrapped hlength (by omega) hn, List.count_append, List.count_append]
    omega

theorem follows_draws_iff (hlength : 0 < length) (hn : n ≤ UInt64.size) {i : Nat} (hi : i + 1 < n) :
    Follows length (r.draws length n) i ↔
      r.count.toNat + (i + 1) ≠ UInt64.size ∨ length ∣ UInt64.size := by
  have hcount := r.count.toNat_lt_size
  have hhere : i < (r.draws length n).length := by rw [length_draws]; omega
  have hnext : i + 1 < (r.draws length n).length := by rw [length_draws]; omega
  rw [Follows, List.getElem?_eq_getElem hhere, List.getElem?_eq_getElem hnext, Option.map_some,
    Option.some_inj, getElem_draws hlength, getElem_draws hlength, Nat.mod_add_mod]
  by_cases hwraps : r.count.toNat + (i + 1) = UInt64.size
  · have hlast : (r.count.toNat + i) % UInt64.size + 1 = UInt64.size := by
      rw [Nat.mod_eq_of_lt (by omega)]
      omega
    rw [hlast, hwraps, Nat.mod_self, Nat.zero_mod, Nat.dvd_iff_mod_eq_zero]
    omega
  · have hstep : (r.count.toNat + (i + 1)) % UInt64.size = (r.count.toNat + i) % UInt64.size + 1 := by
      simp only [UInt64.size] at hcount hn hwraps ⊢
      omega
    simp [hstep, hwraps]

/-- Only the start of a new count breaks the rotation, and only where the number of entries does not divide
the number of counts. -/
theorem rotation_fair (r : Rotation) {length n : Nat} (hlength : 1 ≤ length) (hn : n ≤ UInt64.size) :
    let first := r.count.toNat
    let positions := r.draws length n
    let plain := first + n ≤ UInt64.size ∨ length ∣ UInt64.size
    positions.length = n ∧ (∀ position ∈ positions, position < length) ∧
      (plain → (∀ i, i + 1 < n → Follows length positions i) ∧
        ∀ i < length, ∀ j < length, positions.count i ≤ positions.count j + 1) ∧
      (¬ plain → (∃ i, i + 1 < n ∧ first + (i + 1) = UInt64.size) ∧
        (∀ i, i + 1 < n → (Follows length positions i ↔ first + (i + 1) ≠ UInt64.size)) ∧
        ∀ i < length, ∀ j < length, positions.count i ≤ positions.count j + 2) := by
  dsimp only
  have hcount := r.count.toNat_lt_size
  refine ⟨length_draws r length n, ?_, ?_, ?_⟩
  · intro position hposition
    obtain ⟨i, hi, rfl⟩ := List.getElem_of_mem hposition
    rw [getElem_draws hlength]
    exact Nat.mod_lt _ hlength
  · intro hplain
    constructor
    · intro i hi
      apply (follows_draws_iff hlength hn hi).mpr
      rcases hplain with hbefore | hdivides
      · left
        omega
      · exact Or.inr hdivides
    · intro i hi j hj
      rw [draws_eq_turns hlength hplain]
      exact turns_fair _ _ hi hj
  · intro hplain
    rw [not_or] at hplain
    refine ⟨⟨UInt64.size - r.count.toNat - 1, by omega, by omega⟩, ?_, ?_⟩
    · intro i hi
      rw [follows_draws_iff hlength hn hi, or_iff_left hplain.2]
    · intro i hi j hj
      exact draws_wrapped_fair hn hi hj

theorem thirds_at_last_count :
    let positions := draws ⟨18446744073709551615⟩ 3 5
    1 ≤ 3 ∧ 5 ≤ UInt64.size ∧ positions = [0, 0, 1, 2, 0] ∧
      ¬ Follows 3 positions 0 ∧ Follows 3 positions 1 ∧
      positions.count 0 = positions.count 1 + 2 ∧
      ∀ i < 3, ∀ j < 3, positions.count i ≤ positions.count j + 2 := by
  dsimp only
  have hlength : 1 ≤ 3 := by decide
  have hn : 5 ≤ UInt64.size := by decide
  have hpositions : draws ⟨18446744073709551615⟩ 3 5 = [0, 0, 1, 2, 0] := by decide +kernel
  have hplain : ¬ (UInt64.toNat 18446744073709551615 + 5 ≤ UInt64.size ∨ 3 ∣ UInt64.size) := by
    decide +kernel
  obtain ⟨_, hfollows, hfair⟩ := (rotation_fair ⟨18446744073709551615⟩ hlength hn).2.2.2 hplain
  refine ⟨hlength, hn, hpositions, ?_, ?_, ?_, hfair⟩
  · rw [hfollows 0 (by decide)]
    decide +kernel
  · rw [hfollows 1 (by decide)]
    decide +kernel
  · rw [hpositions]
    decide

end FlowAdmission.Rotation
