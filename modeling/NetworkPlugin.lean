import NetworkPlugin.Http
import NetworkPlugin.Proofs.Address.RoundTrip
import NetworkPlugin.Proofs.Registry.AddressSafety
import NetworkPlugin.Proofs.Registry.Isolation
import NetworkPlugin.Proofs.Registry.Lifecycle
import NetworkPlugin.Proofs.Transport
import NetworkPlugin.Registry.Calls
import NetworkPlugin.Script
import NetworkPlugin.Proofs.Interface
import NetworkPlugin.Proofs.Registry.Atomicity
import NetworkPlugin.Proofs.Registry.Reassignment
import NetworkPlugin.Proofs.Registry.Candidates
import NetworkPlugin.Proofs.Registry.Filling
import NetworkPlugin.Proofs.Pool
import NetworkPlugin.Proofs.Registry.Exhaustion
import NetworkPlugin.Proofs.Dispatch
import NetworkPlugin.Proofs.Records
import NetworkPlugin.Proofs.Registry.Occupancy
import NetworkPlugin.Proofs.Wire.RoundTrip
import NetworkPlugin.Proofs.Registry.Counting
import NetworkPlugin.Proofs.Registry.Reporting
import NetworkPlugin.Proofs.Registry.Commutation
import NetworkPlugin.Proofs.Registry.Indifference
import NetworkPlugin.Proofs.Registry.Reversal
import NetworkPlugin.Proofs.Rejection
import NetworkPlugin.Proofs.Registry.Failures
import NetworkPlugin.Proofs.Text.Controls
import NetworkPlugin.Proofs.Wire.Printing
import NetworkPlugin.Proofs.Registry.Provenance
import NetworkPlugin.Proofs.Registry.LeastFree
import NetworkPlugin.Proofs.Interface.Spelling
import NetworkPlugin.Proofs.Attachment
import NetworkPlugin.Proofs.Pool.Blame
import NetworkPlugin.Proofs.Json.Objects
import NetworkPlugin.Proofs.Registry.Attaching
import NetworkPlugin.Proofs.Respelling
