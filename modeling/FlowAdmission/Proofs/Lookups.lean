import FlowAdmission.Proofs.Counting
import Mathlib.Order.Bounds.Basic

namespace FlowAdmission.Scan

variable {α : Type} (isAvailable : α → Bool)

theorem lookups_afterOne (s : Scan) : s.afterOne.lookups = s.lookups + 1 := rfl

def meeting (needed : Int) (rs : List α) : Set Nat :=
  {n | ∃ seen, seen <+: rs ∧ seen.length = n ∧ needed ≤ unavailable isAvailable seen}

variable {isAvailable} {needed slack : Int} {r : α} {rs : List α} {n : Nat}

theorem succ_mem_meeting : n + 1 ∈ meeting isAvailable needed (r :: rs) ↔
    n ∈ meeting isAvailable (needed - if isAvailable r then 0 else 1) rs := by
  have hcount (seen : List α) : needed ≤ unavailable isAvailable (r :: seen) ↔
      (needed - if isAvailable r then 0 else 1) ≤ unavailable isAvailable seen := by
    rw [unavailable_cons]
    cases isAvailable r
    · simp only [Bool.false_eq_true, ↓reduceIte]
      omega
    · simp
  constructor
  · rintro ⟨seen, hseen, hlength, hneeded⟩
    obtain rfl | ⟨rest, rfl, hrest⟩ := List.prefix_cons_iff.mp hseen
    · simp at hlength
    · exact ⟨rest, hrest, by simpa using hlength, (hcount rest).mp hneeded⟩
  · rintro ⟨seen, hseen, rfl, hneeded⟩
    exact ⟨r :: seen, List.cons_prefix_cons.mpr ⟨rfl, hseen⟩, rfl, (hcount seen).mpr hneeded⟩

theorem zero_not_mem_meeting (hneeded : 0 < needed) : 0 ∉ meeting isAvailable needed rs := by
  rintro ⟨seen, _, hlength, hcount⟩
  rw [List.length_eq_zero_iff.mp hlength] at hcount
  simp [unavailable] at hcount
  omega

theorem isLeast_meeting_cons (hneeded : 0 < needed)
    (h : IsLeast (meeting isAvailable (needed - if isAvailable r then 0 else 1) rs) n) :
    IsLeast (meeting isAvailable needed (r :: rs)) (n + 1) := by
  refine ⟨succ_mem_meeting.mpr h.1, ?_⟩
  intro m hm
  cases m with
  | zero => exact absurd hm (zero_not_mem_meeting hneeded)
  | succ m => exact Nat.succ_le_succ (h.2 (succ_mem_meeting.mp hm))

theorem zero_isLeast_meeting (hneeded : needed ≤ 0) : IsLeast (meeting isAvailable needed rs) 0 := by
  refine ⟨⟨[], List.nil_prefix, rfl, ?_⟩, fun _ _ => Nat.zero_le _⟩
  simpa [unavailable] using hneeded

theorem lookups_of_covered (h : (covering isAvailable slack rs).answer = true) :
    (covering isAvailable slack rs).lookups = rs.length := by
  induction rs generalizing slack with
  | nil => rfl
  | cons r rs ih =>
    cases hr : isAvailable r with
    | true =>
      rw [covering_available hr] at h ⊢
      rw [lookups_afterOne, ih h, List.length_cons]
    | false =>
      by_cases hslack : slack ≤ 0
      · rw [covering_spent hr hslack] at h
        exact absurd h Bool.false_ne_true
      · rw [covering_unavailable hr hslack] at h ⊢
        rw [lookups_afterOne, ih h, List.length_cons]

/-- A search that fails ends at the first unavailable relationship beyond its slack, and it has to meet one
even when it has none. -/
theorem lookups_of_not_covered (h : (covering isAvailable slack rs).answer = false) :
    IsLeast (meeting isAvailable (max 1 (slack + 1)) rs) (covering isAvailable slack rs).lookups := by
  induction rs generalizing slack with
  | nil => simp [covering] at h
  | cons r rs ih =>
    cases hr : isAvailable r with
    | true =>
      rw [covering_available hr] at h ⊢
      rw [lookups_afterOne]
      apply isLeast_meeting_cons (by omega)
      rw [hr, if_pos rfl, Int.sub_zero]
      exact ih h
    | false =>
      by_cases hslack : slack ≤ 0
      · rw [covering_spent hr hslack]
        apply isLeast_meeting_cons (by omega)
        -- the relationship just met is the only one needed
        apply zero_isLeast_meeting
        rw [hr, if_neg Bool.false_ne_true]
        omega
      · have hneeded : max 1 (slack + 1) - 1 = max 1 (slack - 1 + 1) := by omega
        rw [covering_unavailable hr hslack] at h ⊢
        rw [lookups_afterOne]
        apply isLeast_meeting_cons (by omega)
        rw [hr, if_neg Bool.false_ne_true, hneeded]
        exact ih h

theorem lookups_finding (isAvailable : α → Bool) (rs : List α) :
    (finding isAvailable rs).lookups = (rs.findIdx? isAvailable).elim rs.length (· + 1) := by
  induction rs with
  | nil => rfl
  | cons r rs ih =>
    rw [finding, List.findIdx?_cons]
    cases hr : isAvailable r with
    | true => rfl
    | false =>
      rw [if_neg Bool.false_ne_true, if_neg Bool.false_ne_true, lookups_afterOne, ih]
      cases rs.findIdx? isAvailable <;> rfl

theorem lookups_anyAvailable (isAvailable : α → Bool) (rs : List α) :
    (anyAvailable isAvailable rs).lookups = (rs.findIdx? isAvailable).elim rs.length (· + 1) := by
  cases rs with
  | nil => rfl
  | cons r rs => exact lookups_finding isAvailable (r :: rs)

theorem lookups_exact (full : Key Queue → Bool) (relationships : List Relationship)
    (edgesOf : Relationship → List Edge) (required : Nat) :
    let isAvailable r := (edgesOf r).all (Edge.isAvailable full)
    let isOpen r := ∀ e ∈ edgesOf r, e.source = e.destination ∨ full e.queue = false
    let total := relationships.length
    let enough := satisfied isAvailable required relationships
    let any := anyAvailable isAvailable relationships
    (enough.answer = true → enough.lookups = total) ∧
      (enough.answer = false → IsLeast
        {n | ∃ seen, seen <+: relationships ∧ seen.length = n ∧
          max 1 ((total : Int) - required + 1) ≤ seen.countP (fun r => decide (¬ isOpen r))}
        enough.lookups) ∧
      (∀ i, relationships.findIdx? (fun r => decide (isOpen r)) = some i → any.lookups = i + 1) ∧
      ((∀ r ∈ relationships, ¬ isOpen r) → any.lookups = total) ∧
      (relationships = [] → any.lookups = 0) := by
  dsimp only
  have hopen : (fun r => (edgesOf r).all (Edge.isAvailable full)) =
      fun r => decide (∀ e ∈ edgesOf r, e.source = e.destination ∨ full e.queue = false) := by
    funext r
    rw [Bool.eq_iff_iff, List.all_eq_true, decide_eq_true_eq]
    exact forall₂_congr (fun e _ => Edge.isAvailable_iff full e)
  rw [hopen]
  refine ⟨lookups_of_covered, ?_, ?_, ?_, ?_⟩
  · intro h
    simp only [decide_not]
    exact lookups_of_not_covered h
  · intro i hi
    rw [lookups_anyAvailable, hi, Option.elim_some]
  · intro h
    have hnone := List.findIdx?_eq_none_iff.mpr (fun r hr => decide_eq_false (h r hr))
    rw [lookups_anyAvailable, hnone, Option.elim_none]
  · rintro rfl
    rfl

theorem last_channel_refuses :
    let channels := channels.reverse
    let isAvailable r := (channelEdges r).all (Edge.isAvailable fun _ => true)
    (satisfied isAvailable 5 channels).answer = false ∧ (satisfied isAvailable 5 channels).lookups = 3 ∧
      IsLeast {n | ∃ seen, seen <+: channels ∧ seen.length = n ∧ max 1 ((3 : Int) - (5 : Nat) + 1) ≤
        seen.countP (fun r => decide (¬ ∀ e ∈ channelEdges r, e.source = e.destination ∨ true = false))} 3 ∧
      (anyAvailable isAvailable channels).lookups = 1 := by
  dsimp only
  have hrefused : (satisfied (fun r => (channelEdges r).all (Edge.isAvailable fun _ => true)) 5
      channels.reverse).answer = false := by decide
  obtain ⟨_, hleast, hfirst, _⟩ := lookups_exact (fun _ => true) channels.reverse channelEdges 5
  exact ⟨hrefused, by decide, hleast hrefused, hfirst 0 (by decide)⟩

end FlowAdmission.Scan
