import FlowAdmission.Proofs.Grammar

namespace FlowAdmission.Json

variable {c : Char} {s r : List Char}

def NoDigit (r : List Char) : Prop :=
  ∀ c, r.head? = some c → c.isDigit = false

theorem Ends.noDigit (h : Ends r) : NoDigit r := by
  have hall : [' ', '\t', '\n', '\r', ',', ']', '\x7d'].all (!·.isDigit) = true := by decide
  exact fun c hc => (Bool.not_eq_true' c.isDigit).mp (List.all_eq_true.mp hall c (h c hc))

theorem digits_append {ds : List Char} (hds : ∀ d ∈ ds, d.isDigit = true) (hr : NoDigit r) :
    digits (ds ++ r) = (ds, r) := by
  have htake : r.takeWhile Char.isDigit = [] ∧ r.dropWhile Char.isDigit = r := by
    cases r with
    | nil => exact ⟨rfl, rfl⟩
    | cons c t => simp [hr c rfl]
  rw [digits, List.takeWhile_append_of_pos hds, List.dropWhile_append_of_pos hds, htake.1, htake.2,
    List.append_nil]

theorem someDigits_append {ds : List Char} (h : IsDigits ds) (hr : NoDigit r) (atEnd : Reason) :
    someDigits atEnd (ds ++ r) = .ok (ds, r) := by
  obtain ⟨hne, hds⟩ := h
  cases ds with
  | nil => exact (hne rfl).elim
  | cons d ds =>
    rw [List.forall_mem_cons] at hds
    rw [List.cons_append, someDigits, if_pos hds.1, digits_append hds.2 hr]

theorem whole_append {ds : List Char} (h : WholeText ds) (hr : NoDigit r) (atEnd : Reason) :
    whole atEnd (ds ++ r) = .ok (ds, r) := by
  unfold whole
  split
  · rename_i d t hzero
    have hhead : ds.head? = some '0' := by
      cases ds with
      | nil => exact (h.1.1 rfl).elim
      | cons d ds => exact congrArg List.head? (congrArg (List.take 1) hzero)
    obtain rfl := h.2 hhead
    cases hzero
    rw [if_neg (by rw [hr d rfl]; exact Bool.false_ne_true)]
  · exact someDigits_append h.1 hr atEnd

theorem fraction_append {ds : List Char} (h : FractionText ds s) (hr : NoDigit r) (hdot : ∀ t, r ≠ '.' :: t)
    (atEnd : Reason) : fraction atEnd (s ++ r) = .ok (ds, r) := by
  cases h with
  | none =>
    unfold fraction
    split
    · exact (hdot _ ‹_›).elim
    · rfl
  | some h => exact someDigits_append h hr atEnd

theorem exponent_append {e : Option (Bool × List Char)} (h : ExponentText e s) (hr : Ends r)
    (atEnd : Reason) : exponent atEnd (s ++ r) = .ok (e, r) := by
  have hdigits {ds : List Char} (h : IsDigits ds) : sign (ds ++ r) = (false, ds ++ r) := by
    obtain ⟨hne, hds⟩ := h
    cases ds with
    | nil => exact (hne rfl).elim
    | cons d ds =>
      rw [List.forall_mem_cons] at hds
      unfold sign
      split <;> rename_i hd <;> try rfl
      · cases hd
        cases hds.1
      · cases hd
        cases hds.1
  cases h with
  | none =>
    cases r with
    | nil => rfl
    | cons c t =>
      have hc : ¬ (c = 'e' ∨ c = 'E') := by
        rintro (rfl | rfl)
        · exact hr.ne (by decide) t rfl
        · exact hr.ne (by decide) t rfl
      rw [List.nil_append, exponent, if_neg hc]
  | bare hc h =>
    rw [List.cons_append, exponent, if_pos hc, hdigits h, someDigits_append h hr.noDigit]
  | plus hc h =>
    rw [List.cons_append, exponent, if_pos hc, List.cons_append, sign, someDigits_append h hr.noDigit]
  | minus hc h =>
    rw [List.cons_append, exponent, if_pos hc, List.cons_append, sign, someDigits_append h hr.noDigit]

theorem noDigit_fraction {ds : List Char} (h : FractionText ds s) (hr : NoDigit r) : NoDigit (s ++ r) := by
  cases h with
  | none => exact hr
  | some h =>
    intro c hc
    cases hc
    rfl

theorem noDigit_exponent {e : Option (Bool × List Char)} (h : ExponentText e s) (hr : Ends r) :
    NoDigit (s ++ r) ∧ ∀ t, s ++ r ≠ '.' :: t := by
  have hletter {d : Char} (hd : d = 'e' ∨ d = 'E') (u : List Char) :
      NoDigit (d :: u) ∧ ∀ t, d :: u ≠ '.' :: t := by
    rcases hd with rfl | rfl
    · exact ⟨fun c hc => by cases hc; rfl, fun t ht => by cases ht⟩
    · exact ⟨fun c hc => by cases hc; rfl, fun t ht => by cases ht⟩
  cases h with
  | none => exact ⟨hr.noDigit, hr.ne (by decide)⟩
  | bare hc _ => exact hletter hc _
  | plus hc _ => exact hletter hc _
  | minus hc _ => exact hletter hc _

theorem WholeText.ne_minus {w : List Char} (h : WholeText w) (r u : List Char) : w ++ r ≠ '-' :: u := by
  obtain ⟨⟨hne, hds⟩, _⟩ := h
  intro hu
  cases w with
  | nil => exact hne rfl
  | cons d w =>
    cases hu
    cases hds '-' List.mem_cons_self

theorem numeral_append {m : Numeral} (h : NumeralText m s) (hr : Ends r) (atEnd : Reason) :
    numeral atEnd (s ++ r) = .ok (m, r) := by
  obtain @⟨negative, w, f, s, t, e, hw, hf, he⟩ := h
  obtain ⟨hdigit, hdot⟩ := noDigit_exponent he hr
  have hwhole := whole_append hw (noDigit_fraction hf hdigit) atEnd
  have hfraction := fraction_append hf hdigit hdot atEnd
  have hexponent := exponent_append he hr atEnd
  cases negative with
  | true => simp [numeral, hwhole, hfraction, hexponent]
  | false =>
    have hminus := hw.ne_minus (s ++ (t ++ r))
    simp only [Bool.false_eq_true, ↓reduceIte, List.nil_append, List.append_assoc, numeral, hwhole, hfraction,
      hexponent]

theorem skipNumber_append {m : Numeral} (h : NumeralText m s) (hr : Ends r) : skipNumber (s ++ r) = .ok r := by
  rw [skipNumber, numeral_append h hr]

theorem le_ofDigitChars (ds : List Char) (n : Nat) : n ≤ Nat.ofDigitChars 10 ds n := by
  induction ds generalizing n with
  | nil => exact Nat.le_refl n
  | cons d ds ih =>
    rw [Nat.ofDigitChars_cons]
    have := ih (10 * n + (d.toNat - '0'.toNat))
    omega

theorem collect_eq (ds : List Char) (n : Nat) :
    collect n ds = (Nat.ofDigitChars 10 ds n, []) ∧ (ds ≠ [] → Nat.ofDigitChars 10 ds n < UInt64.size) ∨
      (collect n ds).2 ≠ [] ∧ UInt64.size ≤ Nat.ofDigitChars 10 ds n := by
  induction ds generalizing n with
  | nil => exact .inl ⟨rfl, fun h => (h rfl).elim⟩
  | cons d ds ih =>
    have hvalue : n * 10 + digitValue d = 10 * n + (d.toNat - '0'.toNat) := by
      rw [digitValue, Nat.mul_comm]
    rw [collect, Nat.ofDigitChars_cons, hvalue]
    split
    · rename_i hfits
      rcases ih (10 * n + (d.toNat - '0'.toNat)) with ⟨hds, hlt⟩ | hleft
      · refine .inl ⟨hds, fun _ => ?_⟩
        cases ds with
        | nil => exact hfits
        | cons => exact hlt (List.cons_ne_nil _ _)
      · exact .inr hleft
    · rename_i hlarge
      have := le_ofDigitChars ds (10 * n + (d.toNat - '0'.toNat))
      exact .inr ⟨List.cons_ne_nil _ _, by omega⟩

/-- The whole number a numeral stands for, when it is written as one and has a place among the 64-bit
numbers. -/
def Numeral.integer? (m : Numeral) : Option Int :=
  if m.fraction = [] ∧ m.exponent = none then
    let n := Nat.ofDigitChars 10 m.whole 0
    if m.negative then if 0 < n ∧ n ≤ 9223372036854775808 then some (-n) else none
    else if n < UInt64.size then some n else none
  else none

theorem float_cases (m : Numeral) (r : List Char) :
    (∃ f, m.float r = .error f) ∨ ∃ negative size, m.float r = .ok (.float negative size) := by
  unfold Numeral.float
  dsimp only
  split
  · split
    · exact .inr ⟨_, _, rfl⟩
    · exact .inl ⟨_, rfl⟩
  · split
    · split
      · exact .inr ⟨_, _, rfl⟩
      · exact .inl ⟨_, rfl⟩
    · split
      · exact .inr ⟨_, _, rfl⟩
      · exact .inl ⟨_, rfl⟩

theorem value_eq (m : Numeral) (hw : m.whole ≠ []) (r : List Char) :
    m.value r = match m.integer? with
      | some n => .ok (.integer n)
      | none => m.float r := by
  obtain ⟨negative, w, f, e⟩ := m
  have hinteger (hf : ¬ (f = [] ∧ e = none)) : Numeral.integer? ⟨negative, w, f, e⟩ = none := if_neg hf
  rcases f with _ | ⟨d, f⟩
  · cases e with
    | some e =>
      rw [hinteger (fun h => by cases h.2)]
      rfl
    | none =>
      rcases collect_eq w 0 with ⟨hall, hlt⟩ | ⟨hleft, hlarge⟩
      · have hsize := hlt hw
        cases negative with
        | true =>
          by_cases hn : 0 < Nat.ofDigitChars 10 w 0 ∧ Nat.ofDigitChars 10 w 0 ≤ 9223372036854775808
          · simp [Numeral.value, Numeral.integer?, hall, hn]
          · simp [Numeral.value, Numeral.integer?, hall, hn]
        | false => simp [Numeral.value, Numeral.integer?, hall, hsize]
      · have hnone : Numeral.integer? ⟨negative, w, [], none⟩ = none := by
          have hsize : UInt64.size = 18446744073709551616 := rfl
          cases negative with
          | true =>
            simp only [Numeral.integer?, and_self, ↓reduceIte, ite_eq_right_iff, reduceCtorEq, imp_false]
            omega
          | false =>
            simp only [Numeral.integer?, and_self, ↓reduceIte, Bool.false_eq_true, ite_eq_right_iff, reduceCtorEq,
              imp_false]
            omega
        rw [hnone, Numeral.value]
        rcases hc : collect 0 w with ⟨n, _ | ⟨x, left⟩⟩
        · exact (hleft (by rw [hc])).elim
        · rfl
  · rw [hinteger (fun h => by cases h.1)]
    rfl

theorem number_append {m : Numeral} (h : NumeralText m s) (hr : Ends r) :
    (∃ n, m.integer? = some n ∧ number (s ++ r) = .ok (.integer n, r)) ∨
      m.integer? = none ∧ ((∃ f, number (s ++ r) = .error f) ∨
        ∃ negative size, number (s ++ r) = .ok (.float negative size, r)) := by
  have hw : m.whole ≠ [] := by
    cases h with
    | mk hw => exact hw.1.1
  rw [number, numeral_append h hr]
  dsimp only
  rw [value_eq m hw]
  cases hm : m.integer? with
  | some n => exact .inl ⟨n, rfl, rfl⟩
  | none =>
    dsimp only
    rcases float_cases m r with ⟨f, hf⟩ | ⟨negative, size, hf⟩
    · exact .inr ⟨rfl, .inl ⟨f, by rw [hf]⟩⟩
    · exact .inr ⟨rfl, .inr ⟨negative, size, by rw [hf]⟩⟩

end FlowAdmission.Json
