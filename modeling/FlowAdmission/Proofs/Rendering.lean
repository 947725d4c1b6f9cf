import FlowAdmission.Json.Written
import FlowAdmission.Proofs.Grammar
import Mathlib.Data.List.Forall2

namespace FlowAdmission.Json

theorem charText_written (c : Char) : CharText c (writtenChar c) := by
  unfold writtenChar
  split
  · exact .escape (.letter (by decide))
  · exact .escape (.letter (by decide))
  · exact .escape (.letter (by decide))
  · exact .escape (.letter (by decide))
  · exact .escape (.letter (by decide))
  · exact .escape (.letter (by decide))
  · exact .escape (.letter (by decide))
  · rename_i hq hb _ _ _ _ _
    split
    · rename_i hcontrol
      have hzero : IsHex 0 '0' := ⟨by decide, .inl rfl⟩
      have hdigit {d : Nat} (hd : d < 16) : IsHex d d.digitChar := ⟨hd, .inl rfl⟩
      have hhex := HexText.mk hzero hzero (hdigit (d := c.toNat / 16) (by omega)) (hdigit (Nat.mod_lt c.toNat (by decide)))
      have hsum : ((0 * 16 + 0) * 16 + c.toNat / 16) * 16 + c.toNat % 16 = c.toNat := by omega
      rw [hsum] at hhex
      exact .escape (.unit hhex)
    · exact .plain (fun h => hq h) (fun h => hb h) (by omega)

theorem spelled_written (cs : List Char) : Spelled cs (cs.flatMap writtenChar) := by
  induction cs with
  | nil => exact .nil
  | cons c cs ih =>
    rw [List.flatMap_cons]
    exact .cons (charText_written c) ih

theorem renders_text (t : String) : Renders (.value (.text (some t))) (writtenText t) :=
  .text (spelled_written t.toList)

theorem wholeText_written (n : Nat) : WholeText (writtenNat n) := by
  refine ⟨⟨Nat.toDigits_ne_nil, fun d hd => Nat.isDigit_of_mem_toDigits (by decide) (by decide) hd⟩, ?_⟩
  intro hzero
  induction n using Nat.strongRecOn with
  | ind n ih =>
    rw [writtenNat] at hzero ⊢
    by_cases hn : n < 10
    · rw [Nat.toDigits_of_lt_base hn] at hzero ⊢
      exact congrArg (· :: []) (Option.some.inj hzero)
    · -- the first digit is that of a smaller number, which is not zero
      rw [Nat.toDigits_of_base_le (by decide) (by omega), List.head?_append_of_ne_nil _ Nat.toDigits_ne_nil] at hzero
      have hhead : Nat.toDigits 10 (n / 10) = ['0'] := ih (n / 10) (by omega) hzero
      have hvalue : n / 10 = Nat.ofDigitChars 10 ['0'] 0 := by
        rw [← hhead, Nat.ofDigitChars_ten_toDigits]
      have : Nat.ofDigitChars 10 ['0'] 0 = 0 := rfl
      omega

def integerValue (n : Int) : Value :=
  .number ⟨decide (n < 0), writtenNat n.natAbs, [], none⟩

theorem renders_int (n : Int) : Renders (.value (integerValue n)) (writtenInt n) := by
  have h : NumeralText ⟨decide (n < 0), writtenNat n.natAbs, [], none⟩ _ :=
    .mk (wholeText_written n.natAbs) .none .none
  rw [List.append_nil, List.append_nil] at h
  rw [writtenInt]
  split at h <;> rename_i hn
  · rw [if_pos (of_decide_eq_true hn)]
    exact .number h
  · rw [if_neg (by simpa using hn)]
    exact .number h

theorem renders_nat (n : Nat) : Renders (.value (integerValue n)) (writtenNat n) :=
  renders_int n

theorem renders_bool (b : Bool) : Renders (.value (.boolean b)) (writtenBool b) :=
  .boolean b

theorem renders_item {v : Value} {s : List Char} (h : Renders (.value v) s) : Renders (.item v) s := by
  have hitem := Renders.item blank_nil h blank_nil
  rwa [List.nil_append, List.append_nil] at hitem

theorem renders_list {vs : List Value} {ss : List (List Char)}
    (h : List.Forall₂ (fun v s => Renders (.value v) s) vs ss) : Renders (.value (.list vs)) (writtenList ss) := by
  cases h with
  | nil => exact .emptyList blank_nil
  | @cons v s vs ss hv hvs =>
    refine .list ?_
    induction hvs generalizing v s with
    | nil => exact .lastItem (by simpa [List.intercalate] using renders_item hv)
    | cons hw _ ih =>
      rw [List.intercalate_cons_cons, List.append_assoc]
      exact .items (renders_item hv) (ih hw)

theorem renders_member {key : String} {v : Value} {s : List Char} (h : Renders (.value v) s) :
    Renders (.member (some key, v)) (writtenMember (key, s)) := by
  have hmember : Renders (.member (some key, v)) _ :=
    .member blank_nil (spelled_written key.toList) blank_nil (renders_item h)
  simpa [writtenMember, writtenText] using hmember

theorem renders_object {ms : List Member} {ss : List (String × List Char)}
    (h : List.Forall₂ (fun m s => m.1 = some s.1 ∧ Renders (.value m.2) s.2) ms ss) :
    Renders (.value (.object ms)) (writtenObject ss) := by
  have hmember {m : Member} {s : String × List Char} (h : m.1 = some s.1 ∧ Renders (.value m.2) s.2) :
      Renders (.member m) (writtenMember s) := by
    obtain ⟨key, v⟩ := m
    obtain ⟨rfl, hv⟩ := h
    exact renders_member hv
  cases h with
  | nil => exact .emptyObject blank_nil
  | @cons m s ms ss hm hms =>
    refine .object ?_
    induction hms generalizing m s with
    | nil => exact .lastMember (by simpa [List.intercalate] using hmember hm)
    | cons hn _ ih =>
      rw [List.map_cons, List.map_cons, List.intercalate_cons_cons, List.append_assoc]
      exact .members (hmember hm) (ih hn)

end FlowAdmission.Json
