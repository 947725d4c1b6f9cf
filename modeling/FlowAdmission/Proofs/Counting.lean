import FlowAdmission.Admission.Availability
import Mathlib.Data.List.Count

namespace FlowAdmission

namespace Scan

variable {α : Type} (isAvailable : α → Bool)

theorem answer_afterOne (s : Scan) : s.afterOne.answer = s.answer := rfl

def unavailable (rs : List α) : Nat :=
  rs.countP (!isAvailable ·)

theorem unavailable_cons (r : α) (rs : List α) : unavailable isAvailable (r :: rs) =
    unavailable isAvailable rs + if isAvailable r then 0 else 1 := by
  rw [unavailable, List.countP_cons, unavailable]
  cases isAvailable r <;> rfl

theorem unavailable_eq_zero (rs : List α) :
    unavailable isAvailable rs = 0 ↔ ∀ r ∈ rs, isAvailable r = true := by
  simp [unavailable, List.countP_eq_zero]

theorem length_eq_available_add (rs : List α) :
    rs.length = rs.countP isAvailable + unavailable isAvailable rs := by
  rw [unavailable, List.length_eq_countP_add_countP isAvailable]
  simp

section Covering

variable {isAvailable} {slack : Int} {r : α}

theorem covering_available (hr : isAvailable r = true) (slack : Int) (rs : List α) :
    covering isAvailable slack (r :: rs) = (covering isAvailable slack rs).afterOne := by
  rw [covering, if_pos hr]

theorem covering_spent (hr : isAvailable r = false) (hslack : slack ≤ 0) (rs : List α) :
    covering isAvailable slack (r :: rs) = ⟨false, 1⟩ := by
  rw [covering, hr, if_neg Bool.false_ne_true, if_pos hslack]

theorem covering_unavailable (hr : isAvailable r = false) (hslack : ¬ slack ≤ 0) (rs : List α) :
    covering isAvailable slack (r :: rs) = (covering isAvailable (slack - 1) rs).afterOne := by
  rw [covering, hr, if_neg Bool.false_ne_true, if_neg hslack]

end Covering

/-- The scan does not look at its slack before it has met an unavailable relationship, so without
one it succeeds whatever the slack. -/
theorem covering_answer (slack : Int) (rs : List α) :
    (covering isAvailable slack rs).answer = true ↔
      unavailable isAvailable rs ≤ slack ∨ unavailable isAvailable rs = 0 := by
  induction rs generalizing slack with
  | nil => simp [covering, unavailable]
  | cons r rs ih =>
    cases hr : isAvailable r with
    | true =>
      rw [covering_available hr, answer_afterOne, ih, unavailable_cons, hr, if_pos rfl, Nat.add_zero]
    | false =>
      rw [unavailable_cons, hr, if_neg Bool.false_ne_true]
      by_cases hslack : slack ≤ 0
      · rw [covering_spent hr hslack]
        simp only [Bool.false_eq_true, false_iff]
        omega
      · rw [covering_unavailable hr hslack, answer_afterOne, ih]
        omega

theorem satisfied_answer (required : Nat) (rs : List α) :
    (satisfied isAvailable required rs).answer = true ↔
      required + unavailable isAvailable rs ≤ rs.length ∨ unavailable isAvailable rs = 0 := by
  rw [satisfied, covering_answer]
  omega

theorem satisfied_iff (required : Nat) (rs : List α) :
    (satisfied isAvailable required rs).answer = true ↔
      required ≤ rs.countP isAvailable ∨ ∀ r ∈ rs, isAvailable r = true := by
  have hlength := length_eq_available_add isAvailable rs
  rw [satisfied_answer, ← unavailable_eq_zero]
  omega

theorem satisfied_map {β : Type} (f : β → α) (required : Nat) (rs : List β) :
    satisfied isAvailable required (rs.map f) = satisfied (fun r => isAvailable (f r)) required rs := by
  rw [satisfied, satisfied, List.length_map]
  generalize (rs.length : Int) - required = slack
  induction rs generalizing slack with
  | nil => rfl
  | cons r rs ih => simp only [List.map_cons, covering, ih]

/-- The search over 128-bit signed words: the unavailable relationships seen so far are counted up
and compared with the greatest number allowed. -/
def coveringWords (allowed seen : BitVec 128) : List α → Bool
  | [] => true
  | r :: rs =>
    if isAvailable r then coveringWords allowed seen rs
    else if allowed.slt (seen + 1#128) then false
    else coveringWords allowed (seen + 1#128) rs

def satisfiedWords (required : UInt64) (rs : List α) : Bool :=
  coveringWords isAvailable (.ofNat 128 rs.length - .ofNat 128 required.toNat) 0#128 rs

theorem toInt_word {n : Nat} (h : n < UInt64.size) : (BitVec.ofNat 128 n).toInt = n := by
  rw [UInt64.size] at h
  rw [BitVec.toInt_ofNat']
  apply Int.bmod_eq_of_le
  · omega
  · omega

theorem words_not_overflow {m n : Nat} (hm : m < UInt64.size) (hn : n < UInt64.size) :
    BitVec.ssubOverflow (.ofNat 128 m) (.ofNat 128 n) = false := by
  rw [BitVec.ssubOverflow, toInt_word hm, toInt_word hn]
  rw [UInt64.size] at hm hn
  rw [Bool.or_eq_false_iff, decide_eq_false_iff_not, decide_eq_false_iff_not]
  omega

theorem toInt_words_sub {m n : Nat} (hm : m < UInt64.size) (hn : n < UInt64.size) :
    (BitVec.ofNat 128 m - BitVec.ofNat 128 n).toInt = (m : Int) - n := by
  have hfits := words_not_overflow hm hn
  rw [BitVec.toInt_sub_of_not_ssubOverflow (by rw [hfits]; exact Bool.false_ne_true), toInt_word hm,
    toInt_word hn]

theorem toInt_add_one {x : BitVec 128} (h : x.toInt < UInt64.size) :
    (x + 1#128).toInt = x.toInt + 1 := by
  have hlow := BitVec.le_toInt x
  rw [UInt64.size] at h
  rw [BitVec.toInt_add, BitVec.toInt_one (by decide)]
  apply Int.bmod_eq_of_le
  · omega
  · omega

theorem coveringWords_eq (allowed seen : BitVec 128) (rs : List α)
    (h : seen.toInt + rs.length < UInt64.size) :
    coveringWords isAvailable allowed seen rs =
      (covering isAvailable (allowed.toInt - seen.toInt) rs).answer := by
  -- counting up to a limit is counting the limit down as long as the count fits its word
  induction rs generalizing seen with
  | nil => rfl
  | cons r rs ih =>
    rw [List.length_cons] at h
    rw [coveringWords, covering]
    cases isAvailable r with
    | true =>
      rw [if_pos rfl, if_pos rfl, answer_afterOne]
      apply ih
      omega
    | false =>
      have hnext : (seen + 1#128).toInt = seen.toInt + 1 := toInt_add_one (by omega)
      have hover : allowed.slt (seen + 1#128) = true ↔ allowed.toInt - seen.toInt ≤ 0 := by
        rw [BitVec.slt_iff_toInt_lt, hnext]
        omega
      rw [if_neg Bool.false_ne_true, if_neg Bool.false_ne_true]
      by_cases hslack : allowed.toInt - seen.toInt ≤ 0
      · rw [if_pos (hover.mpr hslack), if_pos hslack]
      · have hrest := ih (seen + 1#128) (by omega)
        rw [hnext, ← Int.sub_sub] at hrest
        rw [if_neg (mt hover.mp hslack), if_neg hslack, answer_afterOne, hrest]

theorem satisfiedWords_eq (required : UInt64) {rs : List α} (h : rs.length < UInt64.size) :
    satisfiedWords isAvailable required rs = (satisfied isAvailable required.toNat rs).answer := by
  have hzero : (0#128).toInt = 0 := BitVec.toInt_zero
  rw [satisfiedWords, coveringWords_eq, toInt_words_sub h required.toNat_lt_size, hzero, Int.sub_zero,
    satisfied]
  omega

end Scan

namespace Edge

theorem isAvailable_iff (full : Key Queue → Bool) (e : Edge) :
    e.isAvailable full = true ↔ e.source = e.destination ∨ full e.queue = false := by
  simp [isAvailable, isSelfLoop, isFull]

end Edge

namespace Scan

theorem satisfied_iff_count (full : Key Queue → Bool) (relationships : List Relationship)
    (edgesOf : Relationship → List Edge) (required : UInt64) :
    let isAvailable r := (edgesOf r).all (Edge.isAvailable full)
    let isOpen r := ∀ e ∈ edgesOf r, e.source = e.destination ∨ full e.queue = false
    ((satisfied isAvailable required.toNat relationships).answer = true ↔
        required.toNat ≤ relationships.countP (fun r => decide (isOpen r)) ∨
          ∀ r ∈ relationships, isOpen r) ∧
      (relationships.length < UInt64.size →
        BitVec.ssubOverflow (.ofNat 128 relationships.length) (.ofNat 128 required.toNat) = false ∧
          satisfiedWords isAvailable required relationships =
            (satisfied isAvailable required.toNat relationships).answer) := by
  dsimp only
  have hopen (r : Relationship) : (edgesOf r).all (Edge.isAvailable full) =
      decide (∀ e ∈ edgesOf r, e.source = e.destination ∨ full e.queue = false) := by
    rw [Bool.eq_iff_iff, List.all_eq_true, decide_eq_true_eq]
    exact forall₂_congr (fun e _ => Edge.isAvailable_iff full e)
  refine ⟨?_, ?_⟩
  · simp only [hopen, satisfied_iff, decide_eq_true_eq]
  · intro h
    exact ⟨words_not_overflow h required.toNat_lt_size, satisfiedWords_eq _ required h⟩

def channels : List Relationship :=
  [.named "out", .named "retry", .named "idle"]

def channelEdges (r : Relationship) : List Edge :=
  if r.name = "out" then [⟨⟨"x"⟩, ⟨"p"⟩, ⟨"down"⟩, r, ⟨0⟩⟩]
  else if r.name = "retry" then [⟨⟨"y"⟩, ⟨"p"⟩, ⟨"p"⟩, r, ⟨0⟩⟩]
  else []

theorem greatest_required_refused :
    channels.length < UInt64.size ∧
      BitVec.ssubOverflow (.ofNat 128 channels.length) (.ofNat 128 18446744073709551615) = false ∧
      satisfiedWords (fun r => (channelEdges r).all (Edge.isAvailable fun _ => true))
        18446744073709551615 channels = false := by
  have hlength : channels.length < UInt64.size := by decide
  obtain ⟨hcount, hwords⟩ :=
    satisfied_iff_count (fun _ => true) channels channelEdges 18446744073709551615
  obtain ⟨hfits, hsame⟩ := hwords hlength
  refine ⟨hlength, hfits, ?_⟩
  rw [hsame, ← Bool.not_eq_true, hcount]
  decide

end Scan

end FlowAdmission
