import FlowAdmission.Accounts.Format
import FlowAdmission.Accounts.Label
import FlowAdmission.Accounts.Ledger
import FlowAdmission.Accounts.Sequence
import FlowAdmission.Admission.Availability
import FlowAdmission.Admission.Rotation
import FlowAdmission.Flow.Basic
import FlowAdmission.Flow.Worker
import FlowAdmission.Graph.Category
import FlowAdmission.Graph.DebugText
import FlowAdmission.Graph.Edge
import FlowAdmission.Graph.Format
import FlowAdmission.Graph.Linking
import FlowAdmission.Graph.Node
import FlowAdmission.Graph.NodeSpec
import FlowAdmission.Graph.Refusal
import FlowAdmission.Graph.Relationship
import FlowAdmission.Graph.Wiring
import FlowAdmission.Json.Fault
import FlowAdmission.Json.Number
import FlowAdmission.Json.Reader
import FlowAdmission.Json.Record
import FlowAdmission.Json.Skip
import FlowAdmission.Json.Text
import FlowAdmission.Json.Written
import FlowAdmission.Keyed
import FlowAdmission.Number.Double
import FlowAdmission.Number.Shortest
import FlowAdmission.Pressure.Format
import FlowAdmission.Pressure.Queue
import FlowAdmission.Pressure.Thresholds
import FlowAdmission.Proofs.Arrangements
import FlowAdmission.Proofs.Arrivals
import FlowAdmission.Proofs.Balances
import FlowAdmission.Proofs.Calls
import FlowAdmission.Proofs.Contents
import FlowAdmission.Proofs.Counting
import FlowAdmission.Proofs.Declarations
import FlowAdmission.Proofs.Descriptions
import FlowAdmission.Proofs.Disconnecting
import FlowAdmission.Proofs.Documents
import FlowAdmission.Proofs.DoubleEntry
import FlowAdmission.Proofs.Ends
import FlowAdmission.Proofs.Fairness
import FlowAdmission.Proofs.Formats
import FlowAdmission.Proofs.Gauges
import FlowAdmission.Proofs.Grammar
import FlowAdmission.Proofs.Keys
import FlowAdmission.Proofs.Labels
import FlowAdmission.Proofs.Linking
import FlowAdmission.Proofs.Listings
import FlowAdmission.Proofs.Literals
import FlowAdmission.Proofs.Lookups
import FlowAdmission.Proofs.Meanings
import FlowAdmission.Proofs.Numerals
import FlowAdmission.Proofs.Recording
import FlowAdmission.Proofs.Records
import FlowAdmission.Proofs.Relaxation
import FlowAdmission.Proofs.Rendering
import FlowAdmission.Proofs.Restriction
import FlowAdmission.Proofs.Roster
import FlowAdmission.Proofs.Rotations
import FlowAdmission.Proofs.RoundTrip
import FlowAdmission.Proofs.Runs
import FlowAdmission.Proofs.SelfLoops
import FlowAdmission.Proofs.Shifts
import FlowAdmission.Proofs.Skipping
import FlowAdmission.Proofs.Sorting
import FlowAdmission.Proofs.Steps
import FlowAdmission.Proofs.Totals
import FlowAdmission.Proofs.Unlinking
import FlowAdmission.Proofs.Wiring
import FlowAdmission.Store
import FlowAdmission.Telemetry.Event
import FlowAdmission.Telemetry.Meter
import FlowAdmission.Telemetry.Recorder
import FlowAdmission.Text.ByteOrder
import FlowAdmission.Text.Quoted
import FlowAdmission.Text.Unprintable
