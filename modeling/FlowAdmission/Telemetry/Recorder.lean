import FlowAdmission.Keyed
import FlowAdmission.Number.Double
import FlowAdmission.Text.ByteOrder

namespace FlowAdmission

structure Series where
  node : String
  engaged : UInt64
  adjustments : UInt64
  pollable : Double
  writes : Nat
deriving DecidableEq

structure Recorder where
  series : List Series
deriving DecidableEq

structure Total where
  metric : String
  label : String
  value : UInt64

structure Gauge where
  metric : String
  label : String
  value : Nat
  writes : Nat

namespace Recorder

def empty : Recorder :=
  ⟨[]⟩

variable (r : Recorder)

def find? (node : String) : Option Series :=
  Keyed.get? Series.node node r.series

def register (node : String) : Recorder :=
  ⟨Keyed.entry Series.node node ⟨node, 0, 0, .zero, 0⟩ id r.series⟩

def update (node : String) (change : Series → Series) : Recorder :=
  ⟨Keyed.amend Series.node node change r.series⟩

def engage (node : String) : Recorder :=
  r.update node (fun s => { s with engaged := s.engaged + 1 })

def adjust (node : String) : Recorder :=
  r.update node (fun s => { s with adjustments := s.adjustments + 1 })

def setPollable (node : String) (count : UInt64) : Recorder :=
  r.update node (fun s =>
    { s with
      pollable := (Double.ofNat? count.toNat).getD .zero
      writes := s.writes + 1 })

def label (node : String) : String :=
  "node_id=" ++ node

def totals : List Total :=
  Text.sortOnPair Total.metric Total.label (r.series.flatMap fun s => [
    ⟨"flowgate_backpressure_engaged_total", label s.node, s.engaged⟩,
    ⟨"flowgate_counter_adjustments_total", label s.node, s.adjustments⟩])

/-- A gauge is shown as a 64-bit number, and a greater one as the greatest of these. -/
def gauges : List Gauge :=
  Text.sortOnPair Gauge.metric Gauge.label (r.series.map fun s =>
    ⟨"flowgate_pollable_connections", label s.node, min s.pollable.floor (UInt64.size - 1), s.writes⟩)

end Recorder

end FlowAdmission
