import SecureGateway.Proofs.Pipeline.DepthFirst
import SecureGateway.Proofs.Pool.Accounting
import SecureGateway.Main
import SecureGateway.Metrics.Registry
import SecureGateway.Pool.Borrowed
import SecureGateway.Rehearsal.Loopback
import SecureGateway.Rehearsal.Recipe
import SecureGateway.Rehearsal.Script
import SecureGateway.Rehearsal.Trial
import SecureGateway.Shutdown
import SecureGateway.Rehearsal.Credentials
import SecureGateway.Rehearsal.FileTree
import SecureGateway.Text.Hex
import SecureGateway.Proofs.Pipeline.Simulation
import SecureGateway.Proofs.Pipeline.Streams
import SecureGateway.Proofs.Connection.Gate
import SecureGateway.Proofs.Connection.Provenance
import SecureGateway.Proofs.Connection.Opening
import SecureGateway.Proofs.Connection.Oversight
import SecureGateway.Proofs.Connection.Activation
import SecureGateway.Proofs.Tls.Lifecycle
import SecureGateway.Proofs.Pool.Wakeup
import SecureGateway.Proofs.Connection.Measurement
import SecureGateway.Proofs.Connection.Observation
import SecureGateway.Proofs.Connection.Reception
import SecureGateway.Proofs.Connection.Transmission
import SecureGateway.Proofs.Tls.Segmentation
import SecureGateway.Proofs.Tls.Derivation
import SecureGateway.Proofs.Connection.Service
import SecureGateway.Proofs.Pool.Lending
import SecureGateway.Proofs.Pool.Disposal
import SecureGateway.Proofs.Pipeline.Invariant
import SecureGateway.Proofs.Pipeline.Departures
import SecureGateway.Proofs.Connection.Metering
import SecureGateway.Proofs.Address.RoundTrip
import SecureGateway.Proofs.Config.Consumers
import SecureGateway.Proofs.Pool.Provision
import SecureGateway.Proofs.Pool.Census
import SecureGateway.Proofs.Pool.Retirement
import SecureGateway.Proofs.Pipeline.Termination
import SecureGateway.Proofs.Config.Capacity
import SecureGateway.Proofs.Pool.Gauge
import SecureGateway.Proofs.Tls.Construction
import SecureGateway.Proofs.Pipeline.Roster
import SecureGateway.Proofs.Tls.Reports
import SecureGateway.Proofs.Connection.Failures
import SecureGateway.Proofs.Connection.Demand
import SecureGateway.Proofs.Tls.Deadline
import SecureGateway.Proofs.Tls.Installation
import SecureGateway.Proofs.Tls.Selection
import SecureGateway.Proofs.Connection.Overrun
import SecureGateway.Proofs.Connection.Dialing
import SecureGateway.Proofs.Connection.Solicitation
import SecureGateway.Proofs.Tls.Override
import SecureGateway.Proofs.Shutdown
