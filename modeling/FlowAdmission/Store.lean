namespace FlowAdmission

/-- The name of one object; two objects with equal contents still have two names. -/
structure Key (α : Type) where
  number : Nat

instance {α : Type} : DecidableEq (Key α)
  | ⟨m⟩, ⟨n⟩ => if h : m = n then isTrue (h ▸ rfl) else isFalse (fun e => h (by cases e; rfl))

abbrev Store (α : Type) := Key α → α

namespace Store

variable {α : Type}

def set (s : Store α) (k : Key α) (a : α) : Store α :=
  fun j => if j = k then a else s j

theorem set_same (s : Store α) (k : Key α) (a : α) : s.set k a k = a := by
  simp [set]

theorem set_other (s : Store α) {j k : Key α} (a : α) (h : j ≠ k) : s.set k a j = s j := by
  simp [set, h]

theorem forall_set {P : Key α → α → Prop} {s : Store α} {k : Key α} {a : α} (hk : P k a)
    (h : ∀ j, j ≠ k → P j (s j)) (j : Key α) : P j (s.set k a j) := by
  by_cases hj : j = k
  · subst hj
    rw [set_same]
    exact hk
  · rw [set_other _ _ hj]
    exact h j hj

theorem set_self (s : Store α) (k : Key α) : s.set k (s k) = s := by
  funext j
  by_cases h : j = k <;> simp [set, h]

theorem set_set (s : Store α) (k : Key α) (a b : α) : (s.set k a).set k b = s.set k b := by
  funext j
  by_cases h : j = k <;> simp [set, h]

end Store

end FlowAdmission
