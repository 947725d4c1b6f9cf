import FlowAdmission.Text.ByteOrder
import Mathlib.Data.List.Sort

namespace FlowAdmission.Text

variable {α : Type} {s t : String}

theorem bytes_inj : bytes s = bytes t ↔ s = t := by
  constructor
  · intro h
    apply String.toByteArray_inj.mp
    exact ByteArray.ext (Array.toList_inj.mp h)
  · rintro rfl
    rfl

theorem byteLe_iff (s t : String) : byteLe s t = true ↔ bytes s < bytes t ∨ s = t := by
  rw [byteLe, decide_eq_true_eq, List.le_iff_lt_or_eq, bytes_inj]

theorem byteLe_trans {s t u : String} (hst : byteLe s t = true) (htu : byteLe t u = true) :
    byteLe s u = true := by
  rw [byteLe, decide_eq_true_eq] at *
  exact List.le_trans hst htu

theorem byteLe_total (s t : String) : byteLe s t = true ∨ byteLe t s = true := by
  rw [byteLe, byteLe, decide_eq_true_eq, decide_eq_true_eq]
  exact List.le_total (bytes s) (bytes t)

def Precedes (first second : α → String) (a b : α) : Prop :=
  bytes (first a) < bytes (first b) ∨ first a = first b ∧ bytes (second a) < bytes (second b)

section

variable {key first second : α → String} {a b c : α} {xs : List α}

instance : Std.Irrefl (Precedes first second) where
  irrefl a h := by
    rcases h with h | ⟨_, h⟩
    · exact List.lt_irrefl _ h
    · exact List.lt_irrefl _ h

instance : Std.Antisymm (Precedes first second) where
  antisymm a b hab hba := by
    exfalso
    rcases hab with hab | ⟨hfirst, hab⟩
    · rcases hba with hba | ⟨hfirst, _⟩
      · exact List.lt_asymm hab hba
      · rw [hfirst] at hab
        exact List.lt_irrefl _ hab
    · rcases hba with hba | ⟨_, hba⟩
      · rw [hfirst] at hba
        exact List.lt_irrefl _ hba
      · exact List.lt_asymm hab hba

theorem mem_sortOn : a ∈ sortOn key xs ↔ a ∈ xs :=
  List.mem_mergeSort

theorem mem_sortOnPair : a ∈ sortOnPair first second xs ↔ a ∈ xs :=
  List.mem_mergeSort

theorem pairwise_mergeSort_distinct {β : Type} {key : α → β} {le : α → α → Bool}
    (htrans : ∀ a b c, le a b = true → le b c = true → le a c = true)
    (htotal : ∀ a b, le a b = true ∨ le b a = true) (h : (xs.map key).Nodup) :
    (xs.mergeSort le).Pairwise (fun a b => le a b = true ∧ key a ≠ key b) := by
  have hsorted : (xs.mergeSort le).Pairwise (fun a b => le a b = true) := by
    apply List.pairwise_mergeSort htrans
    intro a b
    rw [Bool.or_eq_true]
    exact htotal a b
  have hdistinct : (xs.mergeSort le).Pairwise (fun a b => key a ≠ key b) := by
    rw [← List.pairwise_map]
    exact ((List.mergeSort_perm xs le).map key).nodup_iff.mpr h
  exact hsorted.and hdistinct

theorem pairwise_sortOn (h : (xs.map key).Nodup) :
    (sortOn key xs).Pairwise (fun a b => bytes (key a) < bytes (key b)) := by
  refine (pairwise_mergeSort_distinct ?_ ?_ h).imp ?_
  · intro a b c
    exact byteLe_trans
  · intro a b
    exact byteLe_total (key a) (key b)
  · rintro a b ⟨hle, hne⟩
    exact ((byteLe_iff _ _).mp hle).resolve_right hne

def pairLe (first second : α → String) (a b : α) : Bool :=
  if first a = first b then byteLe (second a) (second b) else byteLe (first a) (first b)

theorem pairLe_iff : pairLe first second a b = true ↔
    bytes (first a) < bytes (first b) ∨ first a = first b ∧ byteLe (second a) (second b) = true := by
  rw [pairLe]
  by_cases h : first a = first b
  · rw [if_pos h, h]
    simp [List.lt_irrefl]
  · rw [if_neg h, byteLe_iff]
    simp [h]

theorem pairLe_trans (hab : pairLe first second a b = true) (hbc : pairLe first second b c = true) :
    pairLe first second a c = true := by
  rw [pairLe_iff] at *
  rcases hab with hab | ⟨hab, hle⟩
  · left
    rcases hbc with hbc | ⟨hbc, _⟩
    · exact List.lt_trans hab hbc
    · rwa [← hbc]
  · rw [hab]
    exact hbc.imp_right (fun ⟨hbc, hle'⟩ => ⟨hbc, byteLe_trans hle hle'⟩)

theorem pairLe_total (a b : α) : pairLe first second a b = true ∨ pairLe first second b a = true := by
  by_cases h : first a = first b
  · rw [pairLe, pairLe, if_pos h, if_pos h.symm]
    exact byteLe_total (second a) (second b)
  · rw [pairLe, pairLe, if_neg h, if_neg (Ne.symm h)]
    exact byteLe_total (first a) (first b)

theorem pairwise_sortOnPair (h : (xs.map (fun a => (first a, second a))).Nodup) :
    (sortOnPair first second xs).Pairwise (Precedes first second) := by
  have hsorted : (sortOnPair first second xs).Pairwise
      (fun a b => pairLe first second a b = true ∧ (first a, second a) ≠ (first b, second b)) := by
    apply pairwise_mergeSort_distinct _ _ h
    · intro a b c
      exact pairLe_trans
    · exact pairLe_total
  apply hsorted.imp
  rintro a b ⟨hle, hne⟩
  refine (pairLe_iff.mp hle).imp_right ?_
  rintro ⟨hfirst, hsecond⟩
  refine ⟨hfirst, ((byteLe_iff _ _).mp hsecond).resolve_right ?_⟩
  intro hsame
  exact hne (Prod.ext hfirst hsame)

end

end FlowAdmission.Text
