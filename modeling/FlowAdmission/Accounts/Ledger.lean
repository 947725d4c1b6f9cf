import FlowAdmission.Keyed
import FlowAdmission.Text.ByteOrder

namespace FlowAdmission

structure Counter where
  context : String
  name : String
  value : Int64
deriving DecidableEq

structure Tally where
  name : String
  value : Int64
deriving DecidableEq

structure Account where
  context : String
  tallies : List Tally
deriving DecidableEq

def Tally.add (delta : Int64) (t : Tally) : Tally :=
  { t with value := t.value + delta }

def Tally.clear (t : Tally) : Tally :=
  { t with value := 0 }

namespace Account

variable (a : Account)

def counter (context : String) (t : Tally) : Counter :=
  ⟨context, t.name, t.value⟩

def counters : List Counter :=
  a.tallies.map (counter a.context)

def adjust (name : String) (delta : Int64) : Account :=
  { a with tallies := Keyed.entry Tally.name name ⟨name, 0⟩ (Tally.add delta) a.tallies }

def clear (name : String) : Account :=
  { a with tallies := Keyed.amend Tally.name name Tally.clear a.tallies }

end Account

/-- The accounts of all contexts, in the order in which they were first adjusted. -/
structure Ledger where
  accounts : List Account
deriving DecidableEq

namespace Ledger

def empty : Ledger :=
  ⟨[]⟩

variable (l : Ledger)

def account? (context : String) : Option Account :=
  Keyed.get? Account.context context l.accounts

def find? (context name : String) : Option Counter :=
  match l.account? context with
  | some a => (Keyed.get? Tally.name name a.tallies).map (Account.counter context)
  | none => none

def adjust (context name : String) (delta : Int64) : Ledger :=
  ⟨Keyed.entry Account.context context ⟨context, []⟩ (·.adjust name delta) l.accounts⟩

def reset (context name : String) : Option Counter × Ledger :=
  (l.find? context name, ⟨Keyed.amend Account.context context (·.clear name) l.accounts⟩)

def ofContext (context : String) : List Counter :=
  match l.account? context with
  | some a => Text.sortOn Counter.name a.counters
  | none => []

def all : List Counter :=
  Text.sortOnPair Counter.context Counter.name (l.accounts.flatMap Account.counters)

end Ledger

end FlowAdmission
