import GrantGate.Binding.Holdings
import GrantGate.Config
import GrantGate.Decimal
import GrantGate.Decimal.Numeral
import GrantGate.Escalation.Activity
import GrantGate.Escalation.Check
import GrantGate.Http.Request
import GrantGate.Http.Service
import GrantGate.Inquiry
import GrantGate.Json
import GrantGate.Json.Draft
import GrantGate.Proofs.Config
import GrantGate.Proofs.Config.Reading
import GrantGate.Proofs.Coverage.Chains
import GrantGate.Proofs.Coverage.Matching
import GrantGate.Proofs.Coverage.Order
import GrantGate.Proofs.Coverage.Requests
import GrantGate.Proofs.Escalation.Asking
import GrantGate.Proofs.Escalation.Entitlement
import GrantGate.Proofs.Escalation.Promptness
import GrantGate.Proofs.Escalation.Settling
import GrantGate.Proofs.Escalation.Timing
import GrantGate.Proofs.Holdings
import GrantGate.Proofs.Holdings.Gathering
import GrantGate.Proofs.Http.Counting
import GrantGate.Proofs.Inheritance.Distance
import GrantGate.Proofs.Inheritance.Draft
import GrantGate.Proofs.Inheritance.Order
import GrantGate.Proofs.Inheritance.Reach
import GrantGate.Proofs.Inheritance.Trail
import GrantGate.Proofs.Inheritance.Visits
import GrantGate.Proofs.Inheritance.Walk
import GrantGate.Proofs.Refusal.Denial
import GrantGate.Proofs.Review.Admission
import GrantGate.Proofs.Review.Codes
import GrantGate.Proofs.Review.Decision
import GrantGate.Proofs.Review.Deletion
import GrantGate.Proofs.Review.Growth
import GrantGate.Proofs.Review.Guards
import GrantGate.Proofs.Review.Isolation
import GrantGate.Proofs.Review.Order
import GrantGate.Proofs.Review.Outcome
import GrantGate.Proofs.Review.Placement
import GrantGate.Proofs.Review.Plan
import GrantGate.Proofs.Review.Precedence
import GrantGate.Proofs.Review.Remedy
import GrantGate.Proofs.Review.Shape
import GrantGate.Proofs.Roster
import GrantGate.Proofs.Rule.Rendering
import GrantGate.Proofs.Run
import GrantGate.Proofs.Run.Authority
import GrantGate.Proofs.Run.Builtins
import GrantGate.Proofs.Run.Integrity
import GrantGate.Proofs.Run.Placement
import GrantGate.Proofs.Snapshot
import GrantGate.Proofs.Snapshot.Loading
import GrantGate.Proofs.Template.History
import GrantGate.Proofs.Text.Bytes
import GrantGate.Proofs.Wire.Reading
import GrantGate.Proofs.Wire.Record
import GrantGate.Proofs.Wire.RoundTrip
import GrantGate.Refusal
import GrantGate.Review
import GrantGate.Review.Fault
import GrantGate.Review.Plan
import GrantGate.Roster
import GrantGate.Rule
import GrantGate.Rule.Coverage
import GrantGate.Snapshot
import GrantGate.Snapshot.Load
import GrantGate.SocketAddress
import GrantGate.State
import GrantGate.Template.Catalog
import GrantGate.Template.Inheritance
import GrantGate.Text
import GrantGate.Text.Printable
import GrantGate.Wire.Formats
import GrantGate.Wire.Record
import GrantGate.Wire.Source
import GrantGate.Yaml
import GrantGate.Yaml.Glyph
import GrantGate.Yaml.Layout
import GrantGate.Yaml.Node
import GrantGate.Yaml.Scalar
import GrantGate.Yaml.Scalar.Block
import GrantGate.Yaml.Scalar.Flow
import GrantGate.Yaml.Tag
