import FlowAdmission.Proofs.Literals
import FlowAdmission.Proofs.Numerals

namespace FlowAdmission.Json

variable {v : Value} {w s r : List Char} {b : Bracket} {around : List Bracket}

theorem literal_append (w r : List Char) : literal w (w ++ r) = .ok r := by
  induction w with
  | nil => rfl
  | cons c w ih => rw [List.cons_append, literal, if_pos rfl, ih]

theorem colon_append (hw : Blank w) (r : List Char) : colon (w ++ ':' :: r) = .ok r := by
  rw [colon, blanks_append hw, blanks_cons (by decide)]
  rfl

theorem skipKey_append {k : List Char} (hw : Blank w) (hk : Quotable k) (r : List Char) :
    skipKey .object (w ++ '"' :: (k ++ '"' :: r)) = colon r := by
  have hquote : ¬ isBlank '"' = true := by decide
  simp only [skipKey, blanks_append hw, blanks_cons hquote, skipText_quotable hk]

theorem skip_closed_append (hw : Blank w) (r : List Char) :
    skip .closed (b :: around) (w ++ r) = skip .closed (b :: around) r := by
  rw [skip_closed, skip_closed, blanks_append hw]

theorem skip_closing (r : List Char) : skip .closed (b :: around) (b.closing :: r) = skip .closed around r := by
  have hb : ¬ isBlank b.closing = true := by cases b <;> decide
  rw [skip_closed, blanks_cons hb]
  exact if_pos rfl

theorem skip_comma (r : List Char) : skip .closed (b :: around) (',' :: r) =
    match skipKey b r with
    | .error f => .error f
    | .ok t => skip .value (b :: around) t := by
  have hb : ',' ≠ b.closing := by cases b <;> decide
  rw [skip_closed, blanks_cons (by decide)]
  exact (if_neg hb).trans (if_pos rfl)

theorem skip_opening {c : Char} {t : List Char} (hs : blanks s = c :: t) (hc : c ≠ b.closing) :
    skip .opened (b :: around) s =
      match skipKey b s with
      | .error f => .error f
      | .ok t => skip .value (b :: around) t := by
  rw [skip_opened, hs]
  exact if_neg hc

theorem skip_empty (hw : Blank w) (r : List Char) :
    skip .opened (b :: around) (w ++ b.closing :: r) = skip .closed around r := by
  have hb : ¬ isBlank b.closing = true := by cases b <;> decide
  rw [skip_opened, blanks_append hw, blanks_cons hb]
  exact if_pos rfl

def Passed : Phrase → List Char → Prop
  | .value _, s => ∀ around w r, Blank w → Ends r →
      skip .value around (w ++ (s ++ r)) = skip .closed around r
  | .item _, s => ∀ b around r, Ends r → skip .value (b :: around) (s ++ r) = skip .closed (b :: around) r
  | .items _, s => ∀ around r, skip .value (.list :: around) (s ++ ']' :: r) = skip .closed around r
  | .member _, s => ∀ around r, Ends r → ∃ t, skipKey .object (s ++ r) = .ok t ∧
      skip .value (.object :: around) t = skip .closed (.object :: around) r
  | .members _, s => ∀ around r, ∃ t, skipKey .object (s ++ '\x7d' :: r) = .ok t ∧
      skip .value (.object :: around) t = skip .closed around r

theorem passed_scalar {c : Char} {t : List Char} (hs : s = c :: t) (hblank : ¬ isBlank c = true) (hlist : c ≠ '[')
    (hobject : c ≠ '\x7b') (h : ∀ r, Ends r → skipScalar (s ++ r) = .ok r) : Passed (.value v) s := by
  intro around w r hw hr
  subst hs
  rw [skip_value, blanks_append hw, List.cons_append, blanks_cons hblank]
  split
  · rename_i heq
    exact (hlist (List.cons.inj heq).1).elim
  · rename_i heq
    exact (hobject (List.cons.inj heq).1).elim
  · rw [← List.cons_append, h r hr]

theorem skipScalar_number {n : Numeral} (h : NumeralText n s) (hr : Ends r) : skipScalar (s ++ r) = .ok r := by
  have hskip := skipNumber_append h hr
  obtain ⟨c, t, rfl, hc⟩ := opens_numeral h
  rw [List.cons_append] at hskip ⊢
  unfold skipScalar
  split <;> rename_i heq <;> cases heq <;> try cases hc
  exact (if_pos hc).trans hskip

theorem passed_renders {p : Phrase} (h : Renders p s) : Passed p s := by
  induction h with
  | null => exact passed_scalar rfl (by decide) (by decide) (by decide) (fun r _ => literal_append null r)
  | boolean b =>
    cases b with
    | true => exact passed_scalar rfl (by decide) (by decide) (by decide) (fun r _ => literal_append yes r)
    | false => exact passed_scalar rfl (by decide) (by decide) (by decide) (fun r _ => literal_append no r)
  | number h =>
    obtain ⟨c, t, rfl, hc⟩ := opens_numeral h
    have hblank := (Value.Opens.not_blank (v := .number ⟨false, [], [], none⟩) hc).1
    refine passed_scalar rfl hblank ?_ ?_ (fun r => skipScalar_number h)
    · rintro rfl
      cases hc
    · rintro rfl
      cases hc
  | text h =>
    refine passed_scalar rfl (by decide) (by decide) (by decide) (fun r _ => ?_)
    rw [List.cons_append, List.append_assoc]
    exact skipText_quotable (quotable_of_literal h) r
  | emptyList hx =>
    intro around w r hw _
    rw [skip_value, blanks_append hw, List.cons_append, blanks_cons (by decide), List.append_assoc]
    exact skip_empty (b := .list) hx r
  | list h ih =>
    intro around w r hw _
    obtain ⟨c, t, hc, hb⟩ := blanks_items h (']' :: r)
    rw [skip_value, blanks_append hw, List.cons_append, blanks_cons (by decide), List.append_assoc]
    exact (skip_opening (b := .list) hb hc).trans (ih around r)
  | emptyObject hx =>
    intro around w r hw _
    rw [skip_value, blanks_append hw, List.cons_append, blanks_cons (by decide), List.append_assoc]
    exact skip_empty (b := .object) hx r
  | object h ih =>
    intro around w r hw _
    obtain ⟨t, hb⟩ := blanks_members h ('\x7d' :: r)
    obtain ⟨u, hkey, hskip⟩ := ih around r
    rw [skip_value, blanks_append hw, List.cons_append, blanks_cons (by decide), List.append_assoc]
    refine (skip_opening (b := .object) hb (by decide)).trans ?_
    rw [hkey]
    exact hskip
  | item hw _ hx ih =>
    intro b around r hr
    rw [List.append_assoc, List.append_assoc, ih _ _ _ hw (hx.ends hr), skip_closed_append hx]
  | lastItem _ ih =>
    intro around r
    rw [ih _ _ _ (ends_cons (by decide) r)]
    exact skip_closing (b := .list) r
  | items _ _ ih iht =>
    intro around r
    rw [List.append_assoc, List.cons_append, ih _ _ _ (ends_cons (by decide) _), skip_comma]
    exact iht around r
  | member hw hk hx _ ih =>
    intro around r hr
    refine ⟨_, ?_, ih .object around r hr⟩
    simp only [List.append_assoc, List.cons_append]
    exact (skipKey_append hw (quotable_of_literal hk) _).trans (colon_append hx _)
  | lastMember _ ih =>
    intro around r
    obtain ⟨t, hkey, hskip⟩ := ih around ('\x7d' :: r) (ends_cons (by decide) r)
    exact ⟨t, hkey, hskip.trans (skip_closing (b := .object) r)⟩
  | members _ _ ih iht =>
    intro around r
    obtain ⟨u, hnext, hrest⟩ := iht around r
    obtain ⟨t, hkey, hskip⟩ := ih around _ (ends_cons (c := ',') (by decide) _)
    rw [List.append_assoc, List.cons_append]
    refine ⟨t, hkey, hskip.trans ?_⟩
    rw [skip_comma, hnext]
    exact hrest

theorem skipValue_renders (hw : Blank w) (h : Renders (.value v) s) (hr : Ends r) :
    skipValue (w ++ (s ++ r)) = .ok r :=
  (passed_renders h [] w r hw hr).trans (skip_closed_nil r)

end FlowAdmission.Json
