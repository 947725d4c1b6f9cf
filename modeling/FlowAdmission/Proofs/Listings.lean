import FlowAdmission.Proofs.Balances
import FlowAdmission.Proofs.Keys
import FlowAdmission.Proofs.Sorting
import Mathlib.Data.List.Perm.Basic

namespace FlowAdmission

namespace Account

variable {a : Account}

structure Sound (a : Account) : Prop where
  filled : a.tallies ≠ []
  names : (a.tallies.map Tally.name).Nodup

theorem sound_adjust (h : (a.tallies.map Tally.name).Nodup) (name : String) (delta : Int64) :
    (a.adjust name delta).Sound where
  filled := Keyed.entry_ne_nil
  names := Keyed.nodup_entry rfl (fun _ => rfl) h

theorem sound_clear (h : a.Sound) (name : String) : (a.clear name).Sound := by
  constructor
  · intro hnil
    exact h.filled (List.map_eq_nil_iff.mp hnil)
  · have hnames : (a.clear name).tallies.map Tally.name = a.tallies.map Tally.name := by
      apply Keyed.keys_amend
      intro t
      rfl
    rw [hnames]
    exact h.names

theorem mem_counters {c : Counter} :
    c ∈ a.counters ↔ c.context = a.context ∧ ⟨c.name, c.value⟩ ∈ a.tallies := by
  rw [counters, List.mem_map]
  constructor
  · rintro ⟨t, ht, rfl⟩
    exact ⟨rfl, ht⟩
  · rintro ⟨hcontext, ht⟩
    refine ⟨⟨c.name, c.value⟩, ht, ?_⟩
    rw [counter, ← hcontext]

theorem names_counters (a : Account) : a.counters.map Counter.name = a.tallies.map Tally.name := by
  rw [counters, List.map_map]
  rfl

end Account

namespace Ledger

open Text

variable {l l' : Ledger} {context name : String} {c : Counter}

structure Sound (l : Ledger) : Prop where
  contexts : (l.accounts.map Account.context).Nodup
  accounts : ∀ a ∈ l.accounts, a.Sound

theorem sound_empty : empty.Sound :=
  ⟨List.nodup_nil, by simp [empty]⟩

theorem sound_enter (h : l.Sound) (e : Entry) : (l.enter e).2.Sound := by
  cases e with
  | adjust context name delta =>
    constructor
    · exact Keyed.nodup_entry rfl (fun _ => rfl) h.contexts
    · apply Keyed.forall_entry
      · exact Account.sound_adjust (a := ⟨context, []⟩) List.nodup_nil name delta
      · intro a ha _
        exact Account.sound_adjust (h.accounts a ha).names name delta
      · exact h.accounts
  | reset context name =>
    constructor
    · have hcontexts : (l.enter (.reset context name)).2.accounts.map Account.context =
          l.accounts.map Account.context := by
        apply Keyed.keys_amend
        intro a
        rfl
      rw [hcontexts]
      exact h.contexts
    · apply Keyed.forall_amend
      · intro a ha
        exact Account.sound_clear (h.accounts a ha) name
      · exact h.accounts

theorem sound_enterAll (h : l.Sound) (es : List Entry) : (l.enterAll es).Sound := by
  induction es generalizing l with
  | nil => exact h
  | cons e es ih => exact ih (sound_enter h e)

def held (l : Ledger) : List Counter :=
  l.accounts.flatMap Account.counters

theorem account?_iff (h : l.Sound) {a : Account} :
    l.account? context = some a ↔ a ∈ l.accounts ∧ a.context = context :=
  Keyed.get?_iff h.contexts

theorem mem_held : c ∈ l.held ↔ ∃ a ∈ l.accounts, c ∈ a.counters :=
  List.mem_flatMap

theorem mem_counters_iff (h : l.Sound) {a : Account} (ha : l.account? context = some a) :
    c ∈ a.counters ↔ c ∈ l.held ∧ c.context = context := by
  obtain ⟨hmem, hcontext⟩ := (account?_iff h).mp ha
  constructor
  · intro hc
    exact ⟨mem_held.mpr ⟨a, hmem, hc⟩, (Account.mem_counters.mp hc).1.trans hcontext⟩
  · rintro ⟨hheld, hc⟩
    obtain ⟨b, hb, hcb⟩ := mem_held.mp hheld
    have hsame : b.context = a.context :=
      (Account.mem_counters.mp hcb).1.symm.trans (hc.trans hcontext.symm)
    rwa [List.inj_on_of_nodup_map h.contexts hb hmem hsame] at hcb

theorem not_held_of_account?_none (ha : l.account? context = none) (hc : c ∈ l.held) :
    c.context ≠ context := by
  obtain ⟨b, hb, hcb⟩ := mem_held.mp hc
  rw [(Account.mem_counters.mp hcb).1]
  exact fun h => List.find?_eq_none.mp ha b hb (beq_iff_eq.mpr h)

theorem find?_iff (h : l.Sound) :
    l.find? context name = some c ↔ c ∈ l.held ∧ c.context = context ∧ c.name = name := by
  rw [find?]
  cases ha : l.account? context with
  | none =>
    simp only [reduceCtorEq, false_iff, not_and]
    intro hc hcontext
    exact (not_held_of_account?_none ha hc hcontext).elim
  | some a =>
    obtain ⟨hmem, hcontext⟩ := (account?_iff h).mp ha
    rw [← and_assoc, ← mem_counters_iff h ha, Option.map_eq_some_iff]
    simp only [Keyed.get?_iff (h.accounts a hmem).names]
    constructor
    · rintro ⟨t, ⟨ht, rfl⟩, rfl⟩
      exact ⟨Account.mem_counters.mpr ⟨hcontext.symm, ht⟩, rfl⟩
    · rintro ⟨hc, rfl⟩
      obtain ⟨hc, ht⟩ := Account.mem_counters.mp hc
      refine ⟨_, ⟨ht, rfl⟩, ?_⟩
      rw [Account.counter, ← hcontext, ← hc]

theorem mem_ofContext (h : l.Sound) : c ∈ l.ofContext context ↔ c ∈ l.held ∧ c.context = context := by
  rw [ofContext]
  cases ha : l.account? context with
  | none =>
    simp only [List.not_mem_nil, false_iff, not_and]
    exact not_held_of_account?_none ha
  | some a => rw [mem_sortOn, mem_counters_iff h ha]

theorem mem_all : c ∈ l.all ↔ c ∈ l.held :=
  mem_sortOnPair

theorem pairwise_ofContext (h : l.Sound) (context : String) :
    (l.ofContext context).Pairwise (fun c d => bytes c.name < bytes d.name) := by
  rw [ofContext]
  cases ha : l.account? context with
  | none => exact List.Pairwise.nil
  | some a =>
    apply pairwise_sortOn
    rw [Account.names_counters]
    exact (h.accounts a ((account?_iff h).mp ha).1).names

abbrev Before : Counter → Counter → Prop :=
  Precedes Counter.context Counter.name

theorem before_ofContext (h : l.Sound) (context : String) : (l.ofContext context).Pairwise Before := by
  apply (pairwise_ofContext h context).imp_of_mem
  intro c d hc hd hcd
  right
  exact ⟨((mem_ofContext h).mp hc).2.trans ((mem_ofContext h).mp hd).2.symm, hcd⟩

theorem nodup_keys (h : l.Sound) : (l.held.map (fun c => (c.context, c.name))).Nodup := by
  rw [List.Nodup, List.pairwise_map, held, List.pairwise_flatMap]
  constructor
  · intro a ha
    have hnames := (h.accounts a ha).names
    rw [← Account.names_counters, List.Nodup, List.pairwise_map] at hnames
    exact hnames.imp (fun hne hsame => hne (Prod.mk.inj hsame).2)
  · have hcontexts := h.contexts
    rw [List.Nodup, List.pairwise_map] at hcontexts
    apply hcontexts.imp
    intro a b hne c hc d hd hsame
    rw [← (Account.mem_counters.mp hc).1, ← (Account.mem_counters.mp hd).1] at hne
    exact hne (Prod.mk.inj hsame).1

theorem before_all (h : l.Sound) : l.all.Pairwise Before :=
  pairwise_sortOnPair (nodup_keys h)

theorem listings_congr (h : l.Sound) (h' : l'.Sound) (hsame : ∀ c, c ∈ l'.held ↔ c ∈ l.held) :
    (∀ context, l'.ofContext context = l.ofContext context) ∧ l'.all = l.all := by
  constructor
  · intro context
    apply (before_ofContext h' context).eq_of_mem_iff (before_ofContext h context)
    intro c
    rw [mem_ofContext h', mem_ofContext h, hsame]
  · apply (before_all h').eq_of_mem_iff (before_all h)
    intro c
    rw [mem_all, mem_all, hsame]

def contexts (l : Ledger) : List String :=
  sortOn id (l.accounts.map Account.context)

theorem mem_contexts (h : l.Sound) : context ∈ l.contexts ↔ ∃ name, (l.find? context name).isSome = true := by
  rw [contexts, mem_sortOn, List.mem_map]
  constructor
  · rintro ⟨a, ha, rfl⟩
    obtain ⟨t, ht⟩ := List.exists_mem_of_ne_nil _ (h.accounts a ha).filled
    refine ⟨t.name, Option.isSome_iff_exists.mpr ⟨Account.counter a.context t, ?_⟩⟩
    exact (find?_iff h).mpr ⟨mem_held.mpr ⟨a, ha, List.mem_map_of_mem ht⟩, rfl, rfl⟩
  · rintro ⟨name, hsome⟩
    obtain ⟨c, hc⟩ := Option.isSome_iff_exists.mp hsome
    obtain ⟨hheld, rfl, _⟩ := (find?_iff h).mp hc
    obtain ⟨a, ha, hca⟩ := mem_held.mp hheld
    exact ⟨a, ha, (Account.mem_counters.mp hca).1.symm⟩

theorem pairwise_contexts (h : l.Sound) : l.contexts.Pairwise (fun s t => bytes s < bytes t) := by
  apply pairwise_sortOn
  rw [List.map_id']
  exact h.contexts

theorem all_eq_flatMap (h : l.Sound) : l.all = l.contexts.flatMap l.ofContext := by
  apply (before_all h).eq_of_mem_iff
  · rw [List.pairwise_flatMap]
    constructor
    · intro context _
      exact before_ofContext h context
    · apply (pairwise_contexts h).imp
      intro s t hst c hc d hd
      left
      rwa [((mem_ofContext h).mp hc).2, ((mem_ofContext h).mp hd).2]
  · intro c
    rw [mem_all, List.mem_flatMap]
    constructor
    · intro hc
      refine ⟨c.context, (mem_contexts h).mpr ⟨c.name, ?_⟩, (mem_ofContext h).mpr ⟨hc, rfl⟩⟩
      rw [(find?_iff h).mpr ⟨hc, rfl, rfl⟩]
      rfl
    · rintro ⟨context, _, hc⟩
      exact ((mem_ofContext h).mp hc).1

def Rearranged (l l' : Ledger) : Prop :=
  ∃ shuffled : Account → Account,
    (∀ a, (shuffled a).context = a.context ∧ (shuffled a).tallies.Perm a.tallies) ∧
      l'.accounts.Perm (l.accounts.map shuffled)

theorem Rearranged.sound (hr : l.Rearranged l') (h : l.Sound) : l'.Sound := by
  obtain ⟨shuffled, hshuffled, hperm⟩ := hr
  constructor
  · have hcontexts : (l.accounts.map shuffled).map Account.context = l.accounts.map Account.context := by
      rw [List.map_map]
      apply List.map_congr_left
      intro a _
      exact (hshuffled a).1
    rw [(hperm.map _).nodup_iff, hcontexts]
    exact h.contexts
  · intro b hb
    obtain ⟨a, ha, rfl⟩ := List.mem_map.mp (hperm.mem_iff.mp hb)
    have htallies := (hshuffled a).2
    constructor
    · intro hnil
      rw [hnil] at htallies
      exact (h.accounts a ha).filled htallies.symm.eq_nil
    · exact (htallies.map _).nodup_iff.mpr (h.accounts a ha).names

theorem Rearranged.held (hr : l.Rearranged l') : l'.held.Perm l.held := by
  obtain ⟨shuffled, hshuffled, hperm⟩ := hr
  refine (hperm.flatMap_right _).trans ?_
  rw [List.flatMap_map]
  apply List.Perm.flatMap (List.Perm.refl l.accounts)
  intro a _
  rw [Account.counters, (hshuffled a).1]
  exact (hshuffled a).2.map _

theorem listings_exact (es : List Entry) :
    let l := empty.enterAll es
    (∀ context,
        ((l.ofContext context).map Counter.name).Pairwise (fun s t => bytes s < bytes t) ∧
          ∀ c, c ∈ l.ofContext context ↔ l.find? context c.name = some c) ∧
      (∃ contexts : List String, contexts.Pairwise (fun s t => bytes s < bytes t) ∧
        (∀ context, context ∈ contexts ↔ ∃ name delta, Entry.adjust context name delta ∈ es) ∧
        l.all = contexts.flatMap l.ofContext) ∧
      (∀ l', l.Rearranged l' → (∀ context, l'.ofContext context = l.ofContext context) ∧ l'.all = l.all) ∧
      (∀ es', (∀ context name, (empty.enterAll es').find? context name = l.find? context name) →
        (∀ context, (empty.enterAll es').ofContext context = l.ofContext context) ∧
          (empty.enterAll es').all = l.all) ∧
      ∀ context name, (l.find? context name).isSome = true ↔ ∃ delta, Entry.adjust context name delta ∈ es := by
  dsimp only
  have h := sound_enterAll sound_empty es
  refine ⟨?_, ⟨(empty.enterAll es).contexts, pairwise_contexts h, ?_, all_eq_flatMap h⟩, ?_, ?_,
    isSome_enterAll_empty es⟩
  · intro context
    refine ⟨List.pairwise_map.mpr (pairwise_ofContext h context), ?_⟩
    intro c
    rw [mem_ofContext h, find?_iff h]
    simp
  · intro context
    rw [mem_contexts h]
    apply exists_congr
    intro name
    exact isSome_enterAll_empty es context name
  · intro l' hr
    apply listings_congr h (hr.sound h)
    intro c
    exact hr.held.mem_iff
  · intro es' hsame
    have h' := sound_enterAll sound_empty es'
    apply listings_congr h h'
    intro c
    have hfind : (empty.enterAll es).find? c.context c.name = some c ↔ _ := find?_iff h
    have hfind' : (empty.enterAll es').find? c.context c.name = some c ↔ _ := find?_iff h'
    rw [hsame, hfind] at hfind'
    simpa using hfind'.symm

end Ledger

end FlowAdmission
