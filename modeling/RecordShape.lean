import RecordShape.Main
import RecordShape.Schema.Writing
import RecordShape.Proofs.Schema.Conformance
import RecordShape.Proofs.Schema.Nesting
import RecordShape.Proofs.Shape.Acceptance
import RecordShape.Proofs.Compile.Meaning
import RecordShape.Proofs.Compile.References
import RecordShape.Proofs.Compile.Resolution
import RecordShape.Proofs.Compile.Chains
import RecordShape.Proofs.Compile.Correctness
import RecordShape.Proofs.Compile.Cuts
import RecordShape.Proofs.Shape.Satisfaction
import RecordShape.Proofs.Shape.Export
import RecordShape.Proofs.Graph.Chains
import RecordShape.Proofs.Compile.Comparison
import RecordShape.Proofs.Schema.Keys
import RecordShape.Proofs.Compile.DepthBound
import RecordShape.Proofs.Graph.Agreement
import RecordShape.Proofs.Compile.Placeholders
import RecordShape.Proofs.Compile.Documents
import RecordShape.Proofs.Compile.UnknownKeys
import RecordShape.Proofs.Compile.Locality
import RecordShape.Proofs.Json.Normal
import RecordShape.Proofs.Schema.Members
import RecordShape.Proofs.Schema.RoundTrip
import RecordShape.Proofs.Shape.Reports
import RecordShape.Proofs.Compile.Sessions
import RecordShape.Proofs.Compile.Unseen
import RecordShape.Proofs.Schema.Retyping
import RecordShape.Proofs.Graph.Followed
import RecordShape.Proofs.Graph.Cycles
import RecordShape.Proofs.Json.Equality
import RecordShape.Proofs.Shape.Injectivity
import RecordShape.Proofs.Compile.Termination
import RecordShape.Proofs.Shape.Bounds
import RecordShape.Proofs.Compile.NormalForm
import RecordShape.Proofs.Format.Addresses
import RecordShape.Proofs.Format.Dates
import RecordShape.Proofs.Report.Paths
import RecordShape.Proofs.Graph.Pointers
import RecordShape.Proofs.Files.Listing
import RecordShape.Proofs.Files.Writing
import RecordShape.Proofs.Reading.Pieces
import RecordShape.Proofs.Reading.Printed
import RecordShape.Proofs.CommandLine.Written
import RecordShape.Proofs.CommandLine.Verdict
