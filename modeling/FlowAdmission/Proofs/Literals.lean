import FlowAdmission.Proofs.Grammar

namespace FlowAdmission.Json

variable {c : Char} {cs s r : List Char} {n : Nat}

theorem hexValue?_of_isHex {d : Nat} (h : IsHex d c) : hexValue? c = some d := by
  have hall : ∀ d < 16, hexValue? d.digitChar = some d ∧ hexValue? d.digitChar.toUpper = some d := by decide
  obtain ⟨hd, rfl | rfl⟩ := h
  · exact (hall d hd).1
  · exact (hall d hd).2

theorem isHex_of_hexValue? {d : Nat} (h : hexValue? c = some d) : IsHex d c := by
  have hpart {low high : Char} (start : Nat) (hc : low ≤ c ∧ c ≤ high)
      (h : ∀ k < high.toNat - low.toNat + 1, IsHex (k + start) (Char.ofNat (low.toNat + k))) :
      IsHex (c.toNat - low.toNat + start) c := by
    have hlow : low.toNat ≤ c.toNat := hc.1
    have hhigh : c.toNat ≤ high.toNat := hc.2
    have hk := h (c.toNat - low.toNat) (by omega)
    rwa [Nat.add_sub_cancel' hlow, Char.ofNat_toNat] at hk
  unfold hexValue? at h
  split at h
  · rename_i hc
    rw [← Option.some.inj h]
    exact hpart 0 hc (by unfold IsHex; decide)
  · split at h
    · rename_i hc
      rw [← Option.some.inj h]
      exact hpart _ hc (by unfold IsHex; decide)
    · split at h
      · rename_i hc
        rw [← Option.some.inj h]
        exact hpart _ hc (by unfold IsHex; decide)
      · cases h

theorem HexText.lt (h : HexText n s) : n < 0x10000 := by
  cases h with
  | mk ha hb hc hd =>
    have := ha.1
    have := hb.1
    have := hc.1
    have := hd.1
    omega

theorem hexUnit_append (h : HexText n s) (r : List Char) : hexUnit (s ++ r) = .ok (n, r) := by
  cases h with
  | mk ha hb hc hd =>
    simp only [List.cons_append, List.nil_append, hexUnit, hexValue?_of_isHex ha, hexValue?_of_isHex hb,
      hexValue?_of_isHex hc, hexValue?_of_isHex hd]

theorem hexText_of_hexUnit (h : hexUnit s = .ok (n, r)) : ∃ t, HexText n t ∧ s = t ++ r := by
  unfold hexUnit at h
  split at h <;> try contradiction
  split at h <;> try contradiction
  rename_i ha hb hc hd
  cases h
  exact ⟨_, .mk (isHex_of_hexValue? ha) (isHex_of_hexValue? hb) (isHex_of_hexValue? hc)
    (isHex_of_hexValue? hd), rfl⟩

theorem shortEscape?_iff {l : Char} : shortEscape? l = some c ↔ (l, c) ∈ letters := by
  constructor
  · intro h
    unfold shortEscape? at h
    split at h <;> cases h <;> decide
  · intro h
    simp only [letters, List.mem_cons, Prod.mk.injEq, List.not_mem_nil, or_false] at h
    rcases h with h | h | h | h | h | h | h | h <;> obtain ⟨rfl, rfl⟩ := h <;> rfl

theorem toNat_ofNat (hn : n < 0xD800 ∨ 0xDFFF < n ∧ n < 0x110000) : (Char.ofNat n).toNat = n := by
  rw [Char.ofNat, dif_pos hn]
  rfl

theorem toNat_joinUnits {m : Nat} (hn : isHighUnit n = true) (hm : isLowUnit m = true) :
    (joinUnits n m).toNat = 0x10000 + (n - 0xD800) * 1024 + (m - 0xDC00) := by
  simp only [isHighUnit, isLowUnit, Bool.and_eq_true, decide_eq_true_eq] at hn hm
  apply toNat_ofNat
  omega

theorem isLowUnit_iff : isLowUnit n = true ↔ 0xDC00 ≤ n ∧ n ≤ 0xDFFF := by
  rw [isLowUnit, Bool.and_eq_true, decide_eq_true_eq, decide_eq_true_eq]

theorem isHighUnit_iff : isHighUnit n = true ↔ 0xD800 ≤ n ∧ n ≤ 0xDBFF := by
  rw [isHighUnit, Bool.and_eq_true, decide_eq_true_eq, decide_eq_true_eq]

theorem unicode_unit (h : HexText c.toNat s) (r : List Char) : unicode (s ++ r) = .ok (c, r) := by
  have hvalid : c.toNat < 0xD800 ∨ 0xDFFF < c.toNat ∧ c.toNat < 0x110000 := c.valid
  have hlow : ¬ isLowUnit c.toNat = true := by
    rw [isLowUnit_iff]
    omega
  have hhigh : ¬ isHighUnit c.toNat = true := by
    rw [isHighUnit_iff]
    omega
  simp only [unicode, hexUnit_append h, if_neg hlow, if_neg hhigh, Char.ofNat_toNat]

theorem unicode_pair {t : List Char} (hc : 0x10000 ≤ c.toNat)
    (hs : HexText (0xD800 + (c.toNat - 0x10000) / 1024) s)
    (ht : HexText (0xDC00 + (c.toNat - 0x10000) % 1024) t) (r : List Char) :
    unicode (s ++ '\\' :: 'u' :: (t ++ r)) = .ok (c, r) := by
  have hvalid : c.toNat < 0xD800 ∨ 0xDFFF < c.toNat ∧ c.toNat < 0x110000 := c.valid
  have hlow : ¬ isLowUnit (0xD800 + (c.toNat - 0x10000) / 1024) = true := by
    rw [isLowUnit_iff]
    omega
  have hhigh : isHighUnit (0xD800 + (c.toNat - 0x10000) / 1024) = true := by
    rw [isHighUnit_iff]
    omega
  have hpaired : isLowUnit (0xDC00 + (c.toNat - 0x10000) % 1024) = true := by
    rw [isLowUnit_iff]
    omega
  have hjoin : joinUnits (0xD800 + (c.toNat - 0x10000) / 1024) (0xDC00 + (c.toNat - 0x10000) % 1024) = c := by
    apply Char.toNat_inj.mp
    rw [toNat_joinUnits hhigh hpaired]
    omega
  simp only [unicode, hexUnit_append hs, if_neg hlow, if_pos hhigh, lowUnit, hexUnit_append ht, if_pos hpaired,
    hjoin]

theorem escaped_append (h : EscapeText c s) (r : List Char) : escaped (s ++ r) = .ok (c, r) := by
  cases h with
  | @letter l _ h =>
    have hu : l ≠ 'u' := by
      rintro rfl
      rw [← shortEscape?_iff] at h
      cases h
    rw [List.cons_append, List.nil_append, escaped]
    · rw [shortEscape?_iff.mpr h]
    · exact hu
  | unit h => exact unicode_unit h r
  | pair hc hs ht =>
    rw [List.cons_append, List.append_assoc]
    exact unicode_pair hc hs ht r

theorem lowUnit_ok {m : Nat} (h : lowUnit s = .ok (m, r)) :
    ∃ t, HexText m t ∧ isLowUnit m = true ∧ s = '\\' :: 'u' :: (t ++ r) := by
  unfold lowUnit at h
  split at h <;> try contradiction
  split at h <;> try contradiction
  rename_i hu
  split at h <;> try contradiction
  cases h
  obtain ⟨t, ht, rfl⟩ := hexText_of_hexUnit hu
  exact ⟨t, ht, ‹_›, rfl⟩

theorem escapeText_of_unicode (h : unicode s = .ok (c, r)) :
    ∃ t, EscapeText c ('u' :: t) ∧ s = t ++ r := by
  unfold unicode at h
  split at h <;> try contradiction
  rename_i n t hn
  obtain ⟨u, hu, rfl⟩ := hexText_of_hexUnit hn
  split at h <;> try contradiction
  rename_i hlow
  rw [isLowUnit_iff] at hlow
  split at h
  · rename_i hhigh
    split at h <;> try contradiction
    rename_i m v hm
    obtain ⟨w, hw, hpaired, rfl⟩ := lowUnit_ok hm
    obtain ⟨rfl, rfl⟩ := Prod.mk.inj (Except.ok.inj h)
    have hc := toNat_joinUnits hhigh hpaired
    rw [isHighUnit_iff] at hhigh
    rw [isLowUnit_iff] at hpaired
    have hfirst : 0xD800 + ((joinUnits n m).toNat - 0x10000) / 1024 = n := by omega
    have hsecond : 0xDC00 + ((joinUnits n m).toNat - 0x10000) % 1024 = m := by omega
    exact ⟨u ++ '\\' :: 'u' :: w, .pair (by omega) (hfirst.symm ▸ hu) (hsecond.symm ▸ hw), by simp⟩
  · rename_i hhigh
    rw [isHighUnit_iff] at hhigh
    have hlt := hu.lt
    obtain ⟨rfl, rfl⟩ := Prod.mk.inj (Except.ok.inj h)
    have hc : (Char.ofNat n).toNat = n := toNat_ofNat (by omega)
    exact ⟨u, .unit (hc.symm ▸ hu), rfl⟩

theorem escapeText_of_escaped (h : escaped s = .ok (c, r)) : ∃ t, EscapeText c t ∧ s = t ++ r := by
  unfold escaped at h
  split at h <;> try contradiction
  · obtain ⟨t, ht, rfl⟩ := escapeText_of_unicode h
    exact ⟨_, ht, rfl⟩
  · split at h <;> try contradiction
    rename_i hl
    cases h
    exact ⟨_, .letter (shortEscape?_iff.mp hl), rfl⟩

theorem isControl_iff : isControl c = true ↔ c.toNat < 0x20 :=
  decide_eq_true_iff

theorem not_isControl (hc : 0x20 ≤ c.toNat) : ¬ isControl c = true := by
  rw [isControl_iff]
  omega

theorem text_append (h : CharText c s) (r : List Char) :
    text (s ++ r) =
      match text r with
      | .error f => .error f
      | .ok (cs, u) => .ok (c :: cs, u) := by
  cases h with
  | plain hq hb hc => exact (text_plain hq hb r).trans (if_neg (not_isControl hc))
  | @escape s h =>
    have hescape := text_escape (s ++ r)
    rw [escaped_append h] at hescape
    exact hescape

theorem text_spelled (h : Spelled cs s) (r : List Char) : text (s ++ '"' :: r) = .ok (cs, r) := by
  induction h with
  | nil => exact text_quote r
  | cons hc _ ih => rw [List.append_assoc, text_append hc, ih]

theorem spelled_of_text (h : text s = .ok (cs, r)) : ∃ t, Spelled cs t ∧ s = t ++ '"' :: r := by
  fun_induction text s generalizing cs with
  | case1 => cases h
  | case2 u =>
    cases h
    exact ⟨[], .nil, rfl⟩
  | case3 => cases h
  | case4 => cases h
  | case5 u c t he hlt ds v ht ih =>
    cases h
    obtain ⟨p, hp, rfl⟩ := escapeText_of_escaped he
    obtain ⟨q, hq, rfl⟩ := ih ht
    exact ⟨_, .cons (.escape hp) hq, by simp⟩
  | case6 => cases h
  | case7 => cases h
  | case8 c u hq hb hc ds v ht ih =>
    cases h
    rw [isControl_iff, Nat.not_lt] at hc
    obtain ⟨q, hs, rfl⟩ := ih ht
    exact ⟨_, .cons (.plain hq hb hc) hs, rfl⟩

theorem skipEscaped_letter {l : Char} (h : (l, c) ∈ letters) (r : List Char) : skipEscaped (l :: r) = .ok r := by
  have hu : l ≠ 'u' := by
    rintro rfl
    rw [← shortEscape?_iff] at h
    cases h
  rw [skipEscaped]
  · rw [shortEscape?_iff.mpr h]
  · exact hu

theorem skipEscaped_unit (h : HexText n s) (r : List Char) : skipEscaped ('u' :: (s ++ r)) = .ok r := by
  simp only [skipEscaped, hexUnit_append h]

theorem skipText_quotable (h : Quotable s) (r : List Char) : skipText (s ++ '"' :: r) = .ok r := by
  induction h with
  | nil => exact skipText_quote r
  | plain hq hb hc _ ih => exact (skipText_plain hq hb _).trans ((if_neg (not_isControl hc)).trans ih)
  | letter h _ ih =>
    rw [List.cons_append, List.cons_append, skipText_escape, skipEscaped_letter h]
    exact ih
  | unit h _ ih =>
    rw [List.cons_append, List.cons_append, List.append_assoc, skipText_escape, skipEscaped_unit h]
    exact ih

theorem quotable_append {t : List Char} (h : CharText c s) (ht : Quotable t) : Quotable (s ++ t) := by
  cases h with
  | plain hq hb hc => exact .plain hq hb hc ht
  | escape h =>
    cases h with
    | letter h => exact .letter h ht
    | unit h => exact .unit h ht
    | @pair _ u v hc hu hv =>
      have hpair := Quotable.unit hu (Quotable.unit hv ht)
      simpa using hpair

theorem quotable_of_spelled (h : Spelled cs s) : Quotable s := by
  induction h with
  | nil => exact .nil
  | cons hc _ ih => exact quotable_append hc ih

theorem quotable_of_literal {t : Option String} (h : LiteralText t s) : Quotable s := by
  cases t with
  | none => exact h.1
  | some t => exact quotable_of_spelled h

theorem text_literal {t : Option String} (h : LiteralText t s) (r : List Char) :
    (text (s ++ '"' :: r)).toOption = (t.map String.toList).map (·, r) := by
  cases t with
  | some t =>
    rw [text_spelled h r]
    rfl
  | none =>
    obtain ⟨hs, hnone⟩ := h
    rcases ht : text (s ++ '"' :: r) with f | ⟨cs, u⟩
    · rfl
    · -- the closing quote is the same for a text that is passed over
      obtain ⟨p, hp, hsplit⟩ := spelled_of_text ht
      have hu := skipText_quotable (quotable_of_spelled hp) u
      rw [← hsplit, skipText_quotable hs] at hu
      cases hu
      exact (hnone cs (List.append_cancel_right hsplit ▸ hp)).elim

end FlowAdmission.Json
