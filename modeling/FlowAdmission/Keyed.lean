namespace FlowAdmission.Keyed

variable {α κ : Type} [DecidableEq κ] (key : α → κ)

def get? (k : κ) (as : List α) : Option α :=
  as.find? (key · == k)

/-- Changes the entry of a key. Where there is none, a fresh one stands last and is changed. -/
def entry (k : κ) (fresh : α) (change : α → α) : List α → List α
  | [] => [change fresh]
  | a :: as => if key a == k then change a :: as else a :: entry k fresh change as

def amend (k : κ) (change : α → α) (as : List α) : List α :=
  as.map (fun a => if key a == k then change a else a)

section

variable {key} {k : κ} {a : α} {as : List α}

theorem get?_of_key (h : key a = k) : get? key k (a :: as) = some a :=
  List.find?_cons_of_pos (beq_iff_eq.mpr h)

theorem get?_of_other (h : key a ≠ k) : get? key k (a :: as) = get? key k as :=
  List.find?_cons_of_neg (mt beq_iff_eq.mp h)

theorem get?_some (h : get? key k as = some a) : key a = k := by
  have hfound : (key a == k) = true := List.find?_some (p := (key · == k)) h
  exact beq_iff_eq.mp hfound

theorem get?_entry {fresh : α} {change : α → α} (hf : key fresh = k) (hc : ∀ a, key (change a) = key a)
    (j : κ) (as : List α) : get? key j (entry key k fresh change as) =
      if j = k then some (change ((get? key k as).getD fresh)) else get? key j as := by
  induction as with
  | nil =>
    have hkey : key (change fresh) = k := (hc fresh).trans hf
    by_cases hj : j = k
    · rw [if_pos hj, hj]
      exact get?_of_key hkey
    · rw [if_neg hj]
      exact get?_of_other (fun h => hj (h.symm.trans hkey))
  | cons a as ih =>
    by_cases ha : key a = k
    · have hkey : key (change a) = k := (hc a).trans ha
      rw [entry, if_pos (beq_iff_eq.mpr ha)]
      by_cases hj : j = k
      · rw [if_pos hj, hj, get?_of_key hkey, get?_of_key ha]
        rfl
      · rw [if_neg hj, get?_of_other (fun h => hj (h.symm.trans hkey)),
          get?_of_other (fun h => hj (h.symm.trans ha))]
    · rw [entry, if_neg (mt beq_iff_eq.mp ha), get?_of_other (k := k) ha]
      by_cases haj : key a = j
      · have hj : j ≠ k := fun h => ha (haj.trans h)
        rw [if_neg hj, get?_of_key haj, get?_of_key haj]
      · rw [get?_of_other haj, get?_of_other haj, ih]

theorem get?_amend {change : α → α} (hc : ∀ a, key (change a) = key a) (j : κ) (as : List α) :
    get? key j (amend key k change as) =
      if j = k then (get? key k as).map change else get? key j as := by
  have hkey (a : α) : key (if key a == k then change a else a) = key a := by
    split
    · exact hc a
    · rfl
  have hfind : get? key j (amend key k change as) =
      (get? key j as).map (fun a => if key a == k then change a else a) := by
    simp only [get?, amend, List.find?_map, Function.comp_def, hkey]
  rw [hfind]
  by_cases hj : j = k
  · subst hj
    rw [if_pos rfl]
    exact Option.map_congr (fun a ha => if_pos (beq_iff_eq.mpr (get?_some ha)))
  · have hsame : (get? key j as).map (fun a => if key a == k then change a else a) = (get? key j as).map id :=
      Option.map_congr (fun a ha => if_neg (fun h => hj ((get?_some ha).symm.trans (beq_iff_eq.mp h))))
    rw [if_neg hj, hsame, Option.map_id, id]

end

end FlowAdmission.Keyed
