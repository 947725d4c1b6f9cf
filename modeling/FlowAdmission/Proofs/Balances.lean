import FlowAdmission.Accounts.Ledger
import Mathlib.Data.Int.ModEq

namespace FlowAdmission

namespace Ledger

variable {l : Ledger}

def tallies (l : Ledger) (context : String) : List Tally :=
  ((l.account? context).getD ⟨context, []⟩).tallies

theorem find?_eq (l : Ledger) (context name : String) :
    l.find? context name = (Keyed.get? Tally.name name (l.tallies context)).map (Account.counter context) := by
  rw [find?, tallies]
  cases l.account? context with
  | none => rfl
  | some a => rfl

theorem tallies_adjust (l : Ledger) (context name : String) (delta : Int64) (j : String) :
    (l.adjust context name delta).tallies j =
      if j = context then Keyed.entry Tally.name name ⟨name, 0⟩ (Tally.add delta) (l.tallies context)
      else l.tallies j := by
  have haccount : (l.adjust context name delta).account? j =
      if j = context then some (((l.account? context).getD ⟨context, []⟩).adjust name delta)
      else l.account? j := by
    apply Keyed.get?_entry
    · rfl
    · intro a
      rfl
  rw [tallies, haccount]
  by_cases hj : j = context
  · rw [if_pos hj, if_pos hj]
    rfl
  · rw [if_neg hj, if_neg hj, tallies]

theorem tallies_reset (l : Ledger) (context name j : String) :
    (l.reset context name).2.tallies j =
      if j = context then Keyed.amend Tally.name name Tally.clear (l.tallies context)
      else l.tallies j := by
  have haccount : (l.reset context name).2.account? j =
      if j = context then (l.account? context).map (·.clear name) else l.account? j := by
    apply Keyed.get?_amend
    intro a
    rfl
  rw [tallies, haccount]
  by_cases hj : j = context
  · rw [if_pos hj, if_pos hj, tallies]
    cases l.account? context with
    | none => rfl
    | some a => rfl
  · rw [if_neg hj, if_neg hj, tallies]

def value (l : Ledger) (context name : String) : Int64 :=
  ((l.find? context name).map Counter.value).getD 0

theorem find?_adjust (l : Ledger) (context name : String) (delta : Int64) (j k : String) :
    (l.adjust context name delta).find? j k =
      if j = context ∧ k = name then some ⟨context, name, l.value context name + delta⟩
      else l.find? j k := by
  rw [find?_eq, tallies_adjust]
  by_cases hj : j = context
  · have hentry : Keyed.get? Tally.name k
        (Keyed.entry Tally.name name ⟨name, 0⟩ (Tally.add delta) (l.tallies context)) =
          if k = name then some (((Keyed.get? Tally.name name (l.tallies context)).getD ⟨name, 0⟩).add delta)
          else Keyed.get? Tally.name k (l.tallies context) := by
      apply Keyed.get?_entry
      · rfl
      · intro t
        rfl
    rw [if_pos hj, hentry, hj]
    by_cases hk : k = name
    · rw [if_pos hk, if_pos ⟨rfl, hk⟩, value, find?_eq]
      cases ht : Keyed.get? Tally.name name (l.tallies context) with
      | none => rfl
      | some t =>
        have hname := Keyed.get?_some ht
        subst hname
        rfl
    · rw [if_neg hk, if_neg (fun h => hk h.2), find?_eq]
  · rw [if_neg hj, if_neg (fun h => hj h.1), find?_eq]

theorem find?_reset (l : Ledger) (context name j k : String) :
    (l.reset context name).2.find? j k =
      if j = context ∧ k = name then (l.find? context name).map (fun c => { c with value := 0 })
      else l.find? j k := by
  rw [find?_eq, tallies_reset]
  by_cases hj : j = context
  · have hamend : Keyed.get? Tally.name k (Keyed.amend Tally.name name Tally.clear (l.tallies context)) =
        if k = name then (Keyed.get? Tally.name name (l.tallies context)).map Tally.clear
        else Keyed.get? Tally.name k (l.tallies context) := by
      apply Keyed.get?_amend
      intro t
      rfl
    rw [if_pos hj, hamend, hj]
    by_cases hk : k = name
    · rw [if_pos hk, if_pos ⟨rfl, hk⟩, find?_eq, Option.map_map, Option.map_map]
      rfl
    · rw [if_neg hk, if_neg (fun h => hk h.2), find?_eq]
  · rw [if_neg hj, if_neg (fun h => hj h.1), find?_eq]

theorem key_find? {context name : String} {c : Counter} (h : l.find? context name = some c) :
    c.context = context ∧ c.name = name := by
  rw [find?_eq] at h
  obtain ⟨t, ht, rfl⟩ := Option.map_eq_some_iff.mp h
  have hname := Keyed.get?_some ht
  exact ⟨rfl, hname⟩

inductive Entry
  | adjust (context name : String) (delta : Int64)
  | reset (context name : String)
deriving DecidableEq

def Entry.key : Entry → String × String
  | adjust context name _ => (context, name)
  | reset context name => (context, name)

def enter (l : Ledger) : Entry → Option Counter × Ledger
  | .adjust context name delta => (none, l.adjust context name delta)
  | .reset context name => l.reset context name

def enterAll (l : Ledger) (es : List Entry) : Ledger :=
  es.foldl (fun l e => (l.enter e).2) l

theorem enterAll_append (l : Ledger) (es es' : List Entry) :
    l.enterAll (es ++ es') = (l.enterAll es).enterAll es' :=
  List.foldl_append

def deltas (context name : String) (es : List Entry) : List Int64 :=
  es.filterMap (fun
    | .adjust j k delta => if j = context ∧ k = name then some delta else none
    | .reset _ _ => none)

def told (l : Ledger) (context name : String) : List Entry → List Int64
  | [] => []
  | e :: es =>
    (if e = .reset context name then ((l.enter e).1.map Counter.value).toList else []) ++
      (l.enter e).2.told context name es

variable {context name : String}

theorem find?_enter (l : Ledger) {e : Entry} (he : e.key ≠ (context, name)) :
    (l.enter e).2.find? context name = l.find? context name := by
  cases e with
  | adjust j k delta =>
    rw [enter, find?_adjust, if_neg]
    rintro ⟨rfl, rfl⟩
    exact he rfl
  | reset j k =>
    rw [enter, find?_reset, if_neg]
    rintro ⟨rfl, rfl⟩
    exact he rfl

theorem isSome_enter (l : Ledger) (e : Entry) : ((l.enter e).2.find? context name).isSome = true ↔
    (l.find? context name).isSome = true ∨ ∃ delta, e = .adjust context name delta := by
  by_cases he : e.key = (context, name)
  · cases e with
    | adjust j k delta =>
      obtain ⟨rfl, rfl⟩ := Prod.mk.inj he
      rw [enter, find?_adjust, if_pos ⟨rfl, rfl⟩]
      simp
    | reset j k =>
      obtain ⟨rfl, rfl⟩ := Prod.mk.inj he
      rw [enter, find?_reset, if_pos ⟨rfl, rfl⟩]
      simp
  · rw [find?_enter l he, iff_self_or]
    rintro ⟨delta, rfl⟩
    exact (he rfl).elim

theorem isSome_enterAll (l : Ledger) (es : List Entry) :
    ((l.enterAll es).find? context name).isSome = true ↔
      (l.find? context name).isSome = true ∨ ∃ delta, Entry.adjust context name delta ∈ es := by
  induction es generalizing l with
  | nil => simp [enterAll]
  | cons e es ih =>
    have hcons : l.enterAll (e :: es) = (l.enter e).2.enterAll es := rfl
    rw [hcons, ih, isSome_enter, or_assoc]
    apply or_congr_right
    simp only [List.mem_cons, exists_or, eq_comm]

theorem isSome_enterAll_empty (es : List Entry) (context name : String) :
    ((empty.enterAll es).find? context name).isSome = true ↔ ∃ delta, Entry.adjust context name delta ∈ es := by
  have hnone : empty.find? context name = none := rfl
  simp [isSome_enterAll, hnone]

theorem value_enter (l : Ledger) (e : Entry) (context name : String) :
    (l.enter e).2.value context name + (l.told context name [e]).sum =
      l.value context name + (deltas context name [e]).sum := by
  by_cases he : e.key = (context, name)
  · cases e with
    | adjust j k delta =>
      obtain ⟨rfl, rfl⟩ := Prod.mk.inj he
      simp [enter, told, deltas, value, find?_adjust]
    | reset j k =>
      obtain ⟨rfl, rfl⟩ := Prod.mk.inj he
      have hzero : (l.reset j k).2.value j k = 0 := by
        rw [value, find?_reset, if_pos ⟨rfl, rfl⟩]
        cases l.find? j k <;> rfl
      have htold : ((l.reset j k).1.map Counter.value).toList.sum = l.value j k := by
        rw [value, reset]
        cases l.find? j k with
        | none => rfl
        | some c => simp
      simp [enter, told, deltas, hzero, htold]
  · have hsame : (l.enter e).2.value context name = l.value context name := by
      rw [value, find?_enter l he, value]
    have hdeltas : deltas context name [e] = [] := by
      cases e with
      | adjust j k delta => simpa [deltas, Entry.key] using he
      | reset j k => rfl
    have htold : l.told context name [e] = [] := by
      rw [told, if_neg (fun h => he (congrArg Entry.key h))]
      rfl
    rw [hsame, hdeltas, htold]

theorem value_enterAll (l : Ledger) (es : List Entry) (context name : String) :
    (l.enterAll es).value context name + (l.told context name es).sum =
      l.value context name + (deltas context name es).sum := by
  induction es generalizing l with
  | nil => rfl
  | cons e es ih =>
    have hfirst := value_enter l e context name
    have hrest := ih (l.enter e).2
    have hrun : l.enterAll (e :: es) = (l.enter e).2.enterAll es := rfl
    have htold : l.told context name (e :: es) =
        l.told context name [e] ++ (l.enter e).2.told context name es := by
      simp [told]
    have hdeltas : deltas context name (e :: es) = deltas context name [e] ++ deltas context name es :=
      List.filterMap_append (l := [e])
    rw [hrun, htold, hdeltas, List.sum_append, List.sum_append]
    grind

theorem ofInt_sum (xs : List Int64) : Int64.ofInt (xs.map Int64.toInt).sum = xs.sum := by
  induction xs with
  | nil => rfl
  | cons x xs ih => rw [List.map_cons, List.sum_cons, List.sum_cons, Int64.ofInt_add, Int64.ofInt_toInt, ih]

theorem modEq_of_ofInt {m n : Int} (h : Int64.ofInt m = Int64.ofInt n) : m ≡ n [ZMOD 2 ^ 64] := by
  have hsize : (2 ^ 64 : Int) = (Int64.size : Nat) := rfl
  have hbmod : m.bmod Int64.size = n.bmod Int64.size := by
    rw [← Int64.toInt_ofInt, h, Int64.toInt_ofInt]
  rw [Int.ModEq, hsize, ← Int.bmod_emod, hbmod, Int.bmod_emod]

theorem entries_balance (es : List Entry) (context name : String) :
    let l := empty.enterAll es
    ((l.find? context name).isSome = true ↔ ∃ delta, Entry.adjust context name delta ∈ es) ∧
      (∀ c, l.find? context name = some c →
        c.context = context ∧ c.name = name ∧ -2 ^ 63 ≤ c.value.toInt ∧ c.value.toInt < 2 ^ 63 ∧
          c.value.toInt + ((empty.told context name es).map Int64.toInt).sum ≡
            ((deltas context name es).map Int64.toInt).sum [ZMOD 2 ^ 64]) ∧
      (∀ e : Entry, e.key ≠ (context, name) → (l.enter e).2.find? context name = l.find? context name) ∧
      (l.reset context name).1 = l.find? context name ∧
      (l.reset context name).2.find? context name =
        (l.find? context name).map (fun c => { c with value := 0 }) := by
  dsimp only
  refine ⟨isSome_enterAll_empty es context name, ?_, fun e => find?_enter _, rfl, ?_⟩
  · intro c hc
    obtain ⟨hcontext, hname⟩ := key_find? hc
    refine ⟨hcontext, hname, c.value.le_toInt, c.value.toInt_lt, ?_⟩
    have htotal := value_enterAll empty es context name
    have hvalue : (empty.enterAll es).value context name = c.value := by
      rw [value, hc]
      rfl
    have hzero : empty.value context name = 0 := rfl
    apply modEq_of_ofInt
    rw [Int64.ofInt_add, Int64.ofInt_toInt, ofInt_sum, ofInt_sum, ← hvalue, htotal, hzero, Int64.zero_add]
  · rw [find?_reset, if_pos ⟨rfl, rfl⟩]

end Ledger

end FlowAdmission
