import FlowAdmission.Keyed
import Mathlib.Data.List.Nodup

namespace FlowAdmission.Keyed

variable {α κ : Type} [DecidableEq κ] {key : α → κ} {k : κ} {a fresh : α} {change : α → α} {as : List α}

theorem get?_iff (h : (as.map key).Nodup) : get? key k as = some a ↔ a ∈ as ∧ key a = k := by
  constructor
  · intro hget
    exact ⟨List.mem_of_find?_eq_some hget, get?_some hget⟩
  · rintro ⟨ha, hk⟩
    cases hget : get? key k as with
    | none => exact absurd (beq_iff_eq.mpr hk) (List.find?_eq_none.mp hget a ha)
    | some b =>
      have hb := List.mem_of_find?_eq_some hget
      rw [List.inj_on_of_nodup_map h hb ha ((get?_some hget).trans hk.symm)]

theorem keys_entry (hf : key fresh = k) (hc : ∀ a, key (change a) = key a) (as : List α) :
    (entry key k fresh change as).map key =
      if k ∈ as.map key then as.map key else as.map key ++ [k] := by
  induction as with
  | nil => simp [entry, hc, hf]
  | cons a as ih =>
    rw [entry]
    by_cases ha : key a = k
    · simp [ha, hc]
    · simp only [beq_iff_eq, ha, ↓reduceIte, List.map_cons, ih, List.mem_cons, Ne.symm ha, false_or]
      split <;> simp

theorem nodup_entry (hf : key fresh = k) (hc : ∀ a, key (change a) = key a) (h : (as.map key).Nodup) :
    ((entry key k fresh change as).map key).Nodup := by
  rw [keys_entry hf hc]
  split
  · exact h
  · rename_i hk
    exact h.append (List.nodup_singleton k) (by simpa using hk)

theorem keys_amend (hc : ∀ a, key (change a) = key a) (as : List α) :
    (amend key k change as).map key = as.map key := by
  rw [amend, List.map_map]
  apply List.map_congr_left
  intro a _
  rw [Function.comp_apply]
  split
  · exact hc a
  · rfl

theorem forall_entry {P : α → Prop} (hfresh : P (change fresh)) (hchange : ∀ a ∈ as, key a = k → P (change a))
    (h : ∀ a ∈ as, P a) : ∀ a ∈ entry key k fresh change as, P a := by
  induction as with
  | nil => simpa [entry] using hfresh
  | cons a as ih =>
    rw [List.forall_mem_cons] at h hchange
    rw [entry]
    split
    · rename_i ha
      exact List.forall_mem_cons.mpr ⟨hchange.1 (beq_iff_eq.mp ha), h.2⟩
    · exact List.forall_mem_cons.mpr ⟨h.1, ih hchange.2 h.2⟩

theorem forall_amend {P : α → Prop} (hchange : ∀ a ∈ as, P (change a)) (h : ∀ a ∈ as, P a) :
    ∀ a ∈ amend key k change as, P a := by
  rw [amend, List.forall_mem_map]
  intro a ha
  split
  · exact hchange a ha
  · exact h a ha

theorem map_entry {β : Type} {key' : β → κ} {change' : β → β} {f : α → β} (hkey : ∀ a, key' (f a) = key a)
    (hchange : ∀ a, f (change a) = change' (f a)) (as : List α) :
    (entry key k fresh change as).map f = entry key' k (f fresh) change' (as.map f) := by
  induction as with
  | nil => rw [entry, List.map_singleton, hchange, List.map_nil, entry]
  | cons a as ih =>
    rw [entry, List.map_cons, entry, hkey]
    split
    · rw [List.map_cons, hchange]
    · rw [List.map_cons, ih]

theorem perm_entry {bs : List α} (h : as.Perm bs) (hd : (as.map key).Nodup) :
    (entry key k fresh change as).Perm (entry key k fresh change bs) := by
  induction h with
  | nil => exact .refl _
  | cons a h ih =>
    rw [List.map_cons, List.nodup_cons] at hd
    rw [entry, entry]
    split
    · exact h.cons _
    · exact (ih hd.2).cons a
  | swap a b as =>
    -- no two entries that change places have the key
    have hne : key b ≠ key a := by
      rw [List.map_cons, List.nodup_cons] at hd
      exact fun h => hd.1 (h ▸ List.mem_cons_self)
    by_cases ha : key a = k
    · have hb : key b ≠ k := fun h => hne (h.trans ha.symm)
      simp only [entry, beq_iff_eq, ha, hb, ↓reduceIte]
      exact .swap _ _ _
    · simp only [entry, beq_iff_eq, ha, ↓reduceIte]
      split
      · exact .swap _ _ _
      · exact .swap _ _ _
  | trans h₁ h₂ ih₁ ih₂ => exact (ih₁ hd).trans (ih₂ ((h₁.map _).nodup_iff.mp hd))

theorem entry_ne_nil : entry key k fresh change as ≠ [] := by
  cases as with
  | nil => exact List.cons_ne_nil _ _
  | cons a as =>
    rw [entry]
    split <;> exact List.cons_ne_nil _ _

end FlowAdmission.Keyed
