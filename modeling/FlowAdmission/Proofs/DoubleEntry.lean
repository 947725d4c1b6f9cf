import FlowAdmission.Proofs.Balances
import FlowAdmission.Proofs.Recording

namespace FlowAdmission

namespace Node

theorem getLast?_ownLabel (n : Node) : n.ownLabel.toList.getLast? = some ')' := by
  have hlabel : n.ownLabel = n.name ++ " (" ++ n.id.text ++ ")" := rfl
  rw [hlabel, String.toList_append]
  exact List.getLast?_concat

theorem getLast?_typeLabel (componentType : String) :
    ("All " ++ componentType ++ "'s").toList.getLast? = some 's' := by
  rw [String.toList_append, List.getLast?_append]
  rfl

theorem ownLabel_ne (n : Node) (componentType : String) : n.ownLabel ≠ "All " ++ componentType ++ "'s" := by
  intro h
  have hlast := getLast?_ownLabel n
  rw [h, getLast?_typeLabel] at hlast
  exact absurd hlast (by decide)

theorem typeLabel_eq_iff (n : Node) (componentType : String) :
    n.typeLabel = "All " ++ componentType ++ "'s" ↔ n.componentType = componentType := by
  rw [typeLabel, String.append_left_inj, String.append_right_inj]

end Node

structure Posting where
  node : Node
  counter : String
  delta : Int64

namespace Ledger

def entries (p : Posting) : List Entry :=
  [.adjust p.node.ownLabel p.counter p.delta, .adjust p.node.typeLabel p.counter p.delta]

def IsAdjustment : Entry → Prop
  | .adjust _ _ _ => True
  | .reset _ _ => False

theorem isAdjustment_entries (ps : List Posting) : ∀ e ∈ ps.flatMap entries, IsAdjustment e := by
  intro e he
  obtain ⟨p, _, hp⟩ := List.mem_flatMap.mp he
  simp only [entries, List.mem_cons, List.not_mem_nil, or_false] at hp
  rcases hp with rfl | rfl
  · trivial
  · trivial

theorem value_adjust (l : Ledger) (context name : String) (delta : Int64) :
    (l.adjust context name delta).value context name = l.value context name + delta := by
  rw [value, find?_adjust, if_pos ⟨rfl, rfl⟩]
  rfl

theorem find?_enterAll (l : Ledger) {es : List Entry} (h : ∀ e ∈ es, IsAdjustment e) (context name : String) :
    (l.enterAll es).find? context name =
      if deltas context name es = [] then l.find? context name
      else some ⟨context, name, l.value context name + (deltas context name es).sum⟩ := by
  induction es generalizing l with
  | nil => rfl
  | cons e es ih =>
    rw [List.forall_mem_cons] at h
    have hcons : l.enterAll (e :: es) = (l.enter e).2.enterAll es := rfl
    rw [hcons, ih _ h.2]
    cases e with
    | reset j k => exact h.1.elim
    | adjust j k delta =>
      by_cases hkey : j = context ∧ k = name
      · obtain ⟨rfl, rfl⟩ := hkey
        have hdeltas : deltas j k (.adjust j k delta :: es) = delta :: deltas j k es := by
          simp [deltas]
        rw [hdeltas, if_neg (List.cons_ne_nil _ _), List.sum_cons, enter, value_adjust, Int64.add_assoc]
        by_cases hes : deltas j k es = []
        · rw [if_pos hes, hes, find?_adjust, if_pos ⟨rfl, rfl⟩, List.sum_nil, Int64.add_zero]
        · rw [if_neg hes]
      · have hdeltas : deltas context name (.adjust j k delta :: es) = deltas context name es := by
          simp [deltas, hkey]
        have hother : (Entry.adjust j k delta).key ≠ (context, name) := fun h => hkey (Prod.mk.inj h)
        have hsame := find?_enter l hother
        rw [hdeltas, value, hsame, value]

def Totals (l : Ledger) (context name : String) (given : List Int64) : Prop :=
  l.find? context name =
    if given = [] then none else some ⟨context, name, Int64.ofInt (given.map Int64.toInt).sum⟩

theorem totals_enterAll {es : List Entry} (h : ∀ e ∈ es, IsAdjustment e) (context name : String) :
    (empty.enterAll es).Totals context name (deltas context name es) := by
  have hnone : empty.find? context name = none := rfl
  have hzero : empty.value context name = 0 := rfl
  rw [Totals, find?_enterAll empty h, ofInt_sum, hnone, hzero, Int64.zero_add]

theorem sum_perm {xs ys : List Int64} (h : xs.Perm ys) : xs.sum = ys.sum := by
  apply h.foldr_eq'
  intro x _ y _ z
  grind

theorem find?_enterAll_perm (l : Ledger) {es es' : List Entry} (hperm : es.Perm es')
    (h : ∀ e ∈ es, IsAdjustment e) (context name : String) :
    (l.enterAll es).find? context name = (l.enterAll es').find? context name := by
  have hdeltas : (deltas context name es).Perm (deltas context name es') := hperm.filterMap _
  have h' : ∀ e ∈ es', IsAdjustment e := fun e he => h e (hperm.mem_iff.mpr he)
  have hnil : deltas context name es = [] ↔ deltas context name es' = [] := by
    rw [← List.length_eq_zero_iff, hdeltas.length_eq, List.length_eq_zero_iff]
  rw [find?_enterAll l h, find?_enterAll l h', if_congr hnil rfl rfl, sum_perm hdeltas]

theorem deltas_entries {context name : String} {P : Posting → Prop} [DecidablePred P]
    (h : ∀ p, deltas context name (entries p) = if P p then [p.delta] else []) (ps : List Posting) :
    deltas context name (ps.flatMap entries) = (ps.filter P).map Posting.delta := by
  induction ps with
  | nil => rfl
  | cons p ps ih =>
    have hcons : deltas context name ((p :: ps).flatMap entries) =
        deltas context name (entries p) ++ deltas context name (ps.flatMap entries) :=
      List.filterMap_append
    rw [hcons, h, ih]
    by_cases hp : P p
    · rw [if_pos hp, List.filter_cons_of_pos (by simpa using hp)]
      rfl
    · rw [if_neg hp, List.filter_cons_of_neg (by simpa using hp), List.nil_append]

theorem deltas_typeLabel (componentType name : String) (p : Posting) :
    deltas ("All " ++ componentType ++ "'s") name (entries p) =
      if p.node.componentType = componentType ∧ p.counter = name then [p.delta] else [] := by
  have hown := Node.ownLabel_ne p.node componentType
  have htype := Node.typeLabel_eq_iff p.node componentType
  by_cases h : p.node.componentType = componentType ∧ p.counter = name
  · simp [deltas, entries, hown, htype, h]
  · simp [deltas, entries, hown, htype, h]

theorem deltas_ownLabel {label : String} (hlabel : label.toList.getLast? = some ')') (name : String)
    (p : Posting) : deltas label name (entries p) =
      if p.node.ownLabel = label ∧ p.counter = name then [p.delta] else [] := by
  have htype : p.node.typeLabel ≠ label := by
    rintro rfl
    rw [Node.typeLabel, Node.getLast?_typeLabel] at hlabel
    exact absurd hlabel (by decide)
  by_cases h : p.node.ownLabel = label ∧ p.counter = name
  · simp [deltas, entries, htype, h]
  · simp [deltas, entries, htype, h]

end Ledger

namespace Flow

variable {f g : Flow} {l : Key Ledger}

def posting? (l : Key Ledger) (f : Flow) : Move → Option Posting
  | .adjustCounter w name delta => if w.ledger = l then some ⟨f.nodes w.node, name, delta⟩ else none
  | _ => none

def postings (l : Key Ledger) (f : Flow) : List Move → List Posting
  | [] => []
  | m :: ms => (f.posting? l m).toList ++ (f.move m).postings l ms

theorem postings_append (f : Flow) (ms ns : List Move) :
    f.postings l (ms ++ ns) = f.postings l ms ++ (ms.foldl move f).postings l ns := by
  induction ms generalizing f with
  | nil => rfl
  | cons m ms ih => rw [List.cons_append, postings, ih, postings, List.append_assoc, List.foldl_cons]

theorem names_le_move (f : Flow) (m : Move) : f.names ≤ (f.move m).names := by
  by_cases hm : ∃ w, m = .poll w
  · obtain ⟨w, rfl⟩ := hm
    exact Nat.le_of_eq (poll_frame f w).1.symm
  · exact (keeps_move f (fun w hw => hm ⟨w, hw⟩)).names

theorem ledgers_addWorker (hl : l.number < f.names) (n : Key Node) (shared : Shared) (recording : Bool) :
    (f.addWorker n shared recording).2.ledgers l = f.ledgers l := by
  -- a ledger made for the worker is none of those there are
  have hnew {k : Nat} (hk : f.names ≤ k) : f.ledgers.set ⟨k⟩ .empty l = f.ledgers l := by
    apply Store.set_other
    rintro rfl
    exact Nat.not_lt.mpr hk hl
  rw [(addWorker_prepared f n shared recording).2.2]
  obtain ⟨rotation, ledger, sequence⟩ := shared
  cases ledger with
  | some k => cases rotation <;> cases sequence <;> rfl
  | none =>
    cases rotation with
    | some k => cases sequence <;> exact hnew (Nat.le_refl f.names)
    | none => cases sequence <;> exact hnew (Nat.le_succ f.names)

theorem ledgers_adjustCounter (f : Flow) (w : Worker) (name : String) (delta : Int64) :
    (f.adjustCounter w name delta).ledgers =
      f.ledgers.set w.ledger ((f.ledgers w.ledger).enterAll (Ledger.entries ⟨f.nodes w.node, name, delta⟩)) := by
  have htwice : (f.adjustCounter w name delta).ledgers =
      (f.ledgers.set w.ledger ((f.ledgers w.ledger).adjust (f.nodes w.node).ownLabel name delta)).set w.ledger
        ((f.ledgers.set w.ledger ((f.ledgers w.ledger).adjust (f.nodes w.node).ownLabel name delta)
          w.ledger).adjust (f.nodes w.node).typeLabel name delta) := rfl
  rw [htwice, Store.set_set, Store.set_same]
  rfl

theorem ledgers_move (hl : l.number < f.names) (m : Move) :
    (f.move m).ledgers l = (f.ledgers l).enterAll ((f.posting? l m).toList.flatMap Ledger.entries) := by
  cases m with
  | act a =>
    have hframe := (act_frame f a).2
    exact congrFun (congrArg Flow.ledgers hframe :) l
  | addWorker n shared recording => exact ledgers_addWorker hl n shared recording
  | addTasks n ledger recording => exact ledgers_addWorker hl n ⟨none, some ledger, none⟩ recording
  | poll w =>
    rw [move, poll]
    split <;> rfl
  | advance w => rfl
  | nextIndex w => rfl
  | adjustCounter w name delta =>
    rw [move, ledgers_adjustCounter, posting?]
    by_cases hw : w.ledger = l
    · rw [if_pos hw, hw, Store.set_same]
      rfl
    · rw [if_neg hw, Store.set_other _ _ (Ne.symm hw)]
      rfl
  | draw w => rfl

theorem ledgers_foldl (hl : l.number < f.names) (ms : List Move) :
    (ms.foldl move f).ledgers l = (f.ledgers l).enterAll ((f.postings l ms).flatMap Ledger.entries) := by
  induction ms generalizing f with
  | nil => rfl
  | cons m ms ih =>
    have hlater : l.number < (f.move m).names := Nat.lt_of_lt_of_le hl (names_le_move f m)
    rw [List.foldl_cons, ih hlater, ledgers_move hl, postings, List.flatMap_append, Ledger.enterAll_append]

structure SameNodes (f g : Flow) : Prop where
  nodes : f.nodes = g.nodes
  names : f.names = g.names

namespace SameNodes

theorem act (h : f.SameNodes g) (a : Action) : (f.act a).SameNodes (g.act a) := by
  obtain ⟨hnodes, hnames⟩ := h
  constructor
  · cases a with
    | addNode s =>
      have hset (f : Flow) : (f.act (.addNode s)).nodes = f.nodes.set ⟨f.names⟩ (.ofSpec s) := rfl
      rw [hset, hset, hnodes, hnames]
    | rename n name => exact congrArg (fun s : Store Node => s.set n { s n with name }) hnodes
    | setTriggersOnAny n value =>
      exact congrArg (fun s : Store Node => s.set n { s n with triggersOnAny := value }) hnodes
    | ask n c => rw [Flow.act, Flow.act, nodes_ask, nodes_ask, hnodes]
    | connect source destination id r q => rw [Flow.act, Flow.act, nodes_connect, nodes_connect, hnodes]
    | disconnect source destination id => rw [Flow.act, Flow.act, nodes_disconnect, nodes_disconnect, hnodes]
    | addQueue q => exact hnodes
    | setSwitch q full => exact hnodes
    | enqueue q size times => rw [Flow.act, Flow.act, nodes_enqueue, nodes_enqueue, hnodes]
    | dequeue q size => rw [Flow.act, Flow.act, nodes_dequeue, nodes_dequeue, hnodes]
  · rw [(act_frame f a).1, (act_frame g a).1, hnames]

theorem addWorker (h : f.SameNodes g) (n : Key Node) (shared : Shared) (recording : Bool) :
    (f.addWorker n shared recording).2.SameNodes (g.addWorker n shared recording).2 := by
  obtain ⟨rotation, ledger, sequence⟩ := shared
  have hmade (f : Flow) : (f.addWorker n ⟨rotation, ledger, sequence⟩ recording).2.nodes = f.nodes ∧
      (f.addWorker n ⟨rotation, ledger, sequence⟩ recording).2.names =
        f.names + rotation.elim 1 (fun _ => 0) + ledger.elim 1 (fun _ => 0) + sequence.elim 1 (fun _ => 0) + 1 := by
    cases rotation <;> cases ledger <;> cases sequence <;> exact ⟨rfl, rfl⟩
  constructor
  · rw [(hmade f).1, (hmade g).1, h.nodes]
  · rw [(hmade f).2, (hmade g).2, h.names]

theorem move (h : f.SameNodes g) (m : Move) : (f.move m).SameNodes (g.move m) := by
  cases m with
  | act a => exact h.act a
  | addWorker n shared recording => exact h.addWorker n shared recording
  | addTasks n ledger recording => exact h.addWorker n ⟨none, some ledger, none⟩ recording
  | poll w =>
    obtain ⟨hnames, hnodes⟩ := poll_frame f w
    obtain ⟨hnames', hnodes'⟩ := poll_frame g w
    exact ⟨hnodes.trans (h.nodes.trans hnodes'.symm), hnames.trans (h.names.trans hnames'.symm)⟩
  | advance w => exact ⟨h.nodes, h.names⟩
  | nextIndex w => exact ⟨h.nodes, h.names⟩
  | adjustCounter w name delta => exact ⟨h.nodes, h.names⟩
  | draw w => exact ⟨h.nodes, h.names⟩

theorem postings (h : f.SameNodes g) (l : Key Ledger) (ms : List Move) :
    f.postings l ms = g.postings l ms := by
  induction ms generalizing f g with
  | nil => rfl
  | cons m ms ih =>
    have hfirst : f.posting? l m = g.posting? l m := by
      cases m with
      | adjustCounter w name delta => rw [posting?, posting?, h.nodes]
      | _ => rfl
    rw [Flow.postings, Flow.postings, hfirst, ih (h.move m)]

end SameNodes

theorem sameNodes_foldl {calls : List Move} (h : ∀ m ∈ calls, ∃ w name delta, m = .adjustCounter w name delta)
    (f : Flow) : (calls.foldl move f).SameNodes f := by
  induction calls generalizing f with
  | nil => exact ⟨rfl, rfl⟩
  | cons m ms ih =>
    rw [List.forall_mem_cons] at h
    obtain ⟨⟨w, name, delta, rfl⟩, hms⟩ := h
    have hrest := ih hms (f.move (.adjustCounter w name delta))
    exact ⟨hrest.nodes, hrest.names⟩

theorem postings_calls {calls : List Move} (h : ∀ m ∈ calls, ∃ w name delta, m = .adjustCounter w name delta)
    (f : Flow) : f.postings l calls = calls.filterMap (f.posting? l) := by
  induction calls with
  | nil => rfl
  | cons m ms ih =>
    rw [List.forall_mem_cons] at h
    obtain ⟨⟨w, name, delta, rfl⟩, hms⟩ := h
    have hsame : (f.move (.adjustCounter w name delta)).SameNodes f := ⟨rfl, rfl⟩
    rw [postings, hsame.postings, ih hms, List.filterMap_cons]
    cases f.posting? l (.adjustCounter w name delta) <;> rfl

theorem postings_perm (f : Flow) (l : Key Ledger) (before after : List Move) {calls calls' : List Move}
    (hperm : calls.Perm calls') (h : ∀ m ∈ calls, ∃ w name delta, m = .adjustCounter w name delta) :
    (f.postings l (before ++ calls ++ after)).Perm (f.postings l (before ++ calls' ++ after)) := by
  have h' : ∀ m ∈ calls', ∃ w name delta, m = .adjustCounter w name delta :=
    fun m hm => h m (hperm.mem_iff.mpr hm)
  have hsame := sameNodes_foldl h (before.foldl move f)
  have hsame' := sameNodes_foldl h' (before.foldl move f)
  simp only [postings_append, List.foldl_append, postings_calls h, postings_calls h', hsame.postings,
    hsame'.postings]
  exact ((hperm.filterMap _).append_left _).append_right _

theorem counters_double_entry (hl : l.number < f.names) (hempty : f.ledgers l = .empty) (ms : List Move) :
    let calls := f.postings l ms
    let ledger := (ms.foldl move f).ledgers l
    (∀ componentType name, ledger.Totals ("All " ++ componentType ++ "'s") name
        ((calls.filter (fun p => p.node.componentType = componentType ∧ p.counter = name)).map Posting.delta)) ∧
      (∀ label name, label.toList.getLast? = some ')' → ledger.Totals label name
        ((calls.filter (fun p => p.node.name ++ " (" ++ p.node.id.text ++ ")" = label ∧
          p.counter = name)).map Posting.delta)) ∧
      (∀ p ∈ calls, ∀ componentType, p.node.ownLabel ≠ "All " ++ componentType ++ "'s") ∧
      ∀ before adjustments adjustments' after, ms = before ++ adjustments ++ after →
        adjustments.Perm adjustments' →
        (∀ m ∈ adjustments, ∃ w name delta, m = .adjustCounter w name delta) →
        ∀ context name, ledger.find? context name =
          (((before ++ adjustments' ++ after).foldl move f).ledgers l).find? context name := by
  dsimp only
  have hadjust := Ledger.isAdjustment_entries (f.postings l ms)
  have htotals := Ledger.totals_enterAll hadjust
  have hledger : (ms.foldl move f).ledgers l =
      Ledger.empty.enterAll ((f.postings l ms).flatMap Ledger.entries) := by
    rw [ledgers_foldl hl, hempty]
  refine ⟨?_, ?_, ?_, ?_⟩
  · intro componentType name
    rw [hledger, ← Ledger.deltas_entries (Ledger.deltas_typeLabel componentType name)]
    apply htotals
  · intro label name hlabel
    have hdeltas := Ledger.deltas_entries (Ledger.deltas_ownLabel hlabel name) (f.postings l ms)
    rw [hledger]
    exact hdeltas ▸ htotals label name
  · intro p _ componentType
    exact Node.ownLabel_ne p.node componentType
  · rintro before adjustments adjustments' after rfl hperm hcalls context name
    have hpostings := postings_perm f l before after hperm hcalls
    rw [ledgers_foldl hl, ledgers_foldl hl]
    exact Ledger.find?_enterAll_perm _ (hpostings.flatMap_right _) hadjust context name

/-- Two nodes of one type; the name of the first reads like the label of the type. -/
def staffed : Flow :=
  (empty.run [
    .addNode { NodeSpec.blank with id := ⟨"1"⟩, name := "All T's", componentType := "T" },
    .addNode { NodeSpec.blank with id := ⟨"2"⟩, name := "All T's (1)", componentType := "T" }]).addLedger.2

def bookings : List Move := [
  .adjustCounter ⟨⟨0⟩, ⟨0⟩, ⟨2⟩, ⟨0⟩, ⟨0⟩⟩ "n" 9223372036854775807,
  .act (.rename ⟨0⟩ "First"),
  .adjustCounter ⟨⟨0⟩, ⟨0⟩, ⟨2⟩, ⟨0⟩, ⟨0⟩⟩ "n" 1,
  .adjustCounter ⟨⟨1⟩, ⟨0⟩, ⟨2⟩, ⟨0⟩, ⟨0⟩⟩ "n" 5]

theorem staffed_books_twice :
    ((bookings.foldl move staffed).ledgers ⟨2⟩).find? "All T's" "n" =
        some ⟨"All T's", "n", -9223372036854775803⟩ ∧
      ((bookings.foldl move staffed).ledgers ⟨2⟩).find? "All T's (1)" "n" =
        some ⟨"All T's (1)", "n", 9223372036854775807⟩ ∧
      ((bookings.foldl move staffed).ledgers ⟨2⟩).find? "All T's (2)" "n" = none := by
  obtain ⟨htypes, howns, _⟩ := counters_double_entry (f := staffed) (l := ⟨2⟩) (by decide) rfl bookings
  refine ⟨?_, ?_, ?_⟩
  · exact (htypes "T" "n").trans (by decide +kernel)
  · exact (howns "All T's (1)" "n" (by decide +kernel)).trans (by decide +kernel)
  · exact (howns "All T's (2)" "n" (by decide +kernel)).trans (by decide +kernel)

end Flow

end FlowAdmission
