import CheckpointFabric.Fabric
import CheckpointFabric.Concurrency.Lease
import CheckpointFabric.Concurrency.Phases
import CheckpointFabric.Concurrency.Links
import CheckpointFabric.Steps.Workloads
import CheckpointFabric.Steps.Checkpoints
import CheckpointFabric.Steps.Runs
import CheckpointFabric.Footprints.Basic
import CheckpointFabric.Footprints.Restore
import CheckpointFabric.Footprints.Capture
import CheckpointFabric.Footprints.Recovery
import CheckpointFabric.Footprints.Decisions
import CheckpointFabric.Footprints.Requests
import CheckpointFabric.Footprints.Actors
import CheckpointFabric.Steps.Identities
import CheckpointFabric.Steps.Captures
import CheckpointFabric.Steps.Rows
import CheckpointFabric.Steps.Committed
import CheckpointFabric.Steps.Journal
import CheckpointFabric.Steps.Images
import CheckpointFabric.Steps.Links
import CheckpointFabric.Steps.Restores
import CheckpointFabric.Steps.Attempts
import CheckpointFabric.Properties.Fencing
import CheckpointFabric.Properties.Exclusion
import CheckpointFabric.Properties.Captures
import CheckpointFabric.Properties.Visibility
import CheckpointFabric.Properties.Images
import CheckpointFabric.Properties.Supersession
import CheckpointFabric.Properties.Allocation
import CheckpointFabric.Properties.Accounting
import CheckpointFabric.Properties.Marker
import CheckpointFabric.Properties.Legality
import CheckpointFabric.Properties.Rollback
import CheckpointFabric.Footprints.Stages
import CheckpointFabric.Properties.Stages
import CheckpointFabric.Replica
import CheckpointFabric.Properties.Anchoring
import CheckpointFabric.Alone.Errors
import CheckpointFabric.Alone.Basic
import CheckpointFabric.Alone.Recovery
import CheckpointFabric.Properties.Reconcile
import CheckpointFabric.Alone.Capture
import CheckpointFabric.Properties.FailedCapture
import CheckpointFabric.Alone.Restore
import CheckpointFabric.Properties.FailedRestore
import CheckpointFabric.Alone.StoppedRestore
import CheckpointFabric.Footprints.Outcome
import CheckpointFabric.Footprints.Images
import CheckpointFabric.Properties.CaptureOutcome
import CheckpointFabric.Properties.Replication
import CheckpointFabric.Properties.ComponentFiles
import CheckpointFabric.Steps.Locations
import CheckpointFabric.Properties.Locations
import CheckpointFabric.Properties.Corruption
import CheckpointFabric.Steps.Forks
import CheckpointFabric.Properties.Forks
import CheckpointFabric.Properties.Attach
import CheckpointFabric.Properties.CaptureOwner
import CheckpointFabric.Steps.Seals
import CheckpointFabric.Properties.Interval
import CheckpointFabric.Authority
import CheckpointFabric.Properties.Grants
import CheckpointFabric.Quiescence
import CheckpointFabric.Footprints.Staging
import CheckpointFabric.Footprints.Quiescence
import CheckpointFabric.Properties.Quiescence
import CheckpointFabric.Properties.Evidence
import CheckpointFabric.Properties.Requirements
import CheckpointFabric.Store.Epochs
import CheckpointFabric.Policies
import CheckpointFabric.Wire.Words
import CheckpointFabric.Wire.Framing
import CheckpointFabric.Frames
import CheckpointFabric.Transport
import CheckpointFabric.Properties.AllOrNothing
import CheckpointFabric.Properties.Verification
import CheckpointFabric.Serving
import CheckpointFabric.Concurrency.Points
import CheckpointFabric.Cleanup
import CheckpointFabric.Properties.Regions
import CheckpointFabric.Files.Tree
import CheckpointFabric.Filesystem
import CheckpointFabric.Properties.Archive
import CheckpointFabric.Properties.Plan
import CheckpointFabric.Properties.Undo
import CheckpointFabric.Properties.RoundTrip
import CheckpointFabric.Footprints.Locations
import CheckpointFabric.Properties.ValidReplicas
import CheckpointFabric.Properties.ReadBack
import CheckpointFabric.Lineage
import CheckpointFabric.Properties.SideEffects
import CheckpointFabric.Properties.Retry
import CheckpointFabric.Hosting
import CheckpointFabric.Leases
import CheckpointFabric.Properties.Leases
import CheckpointFabric.Properties.Damage
import CheckpointFabric.Retention
import CheckpointFabric.Properties.Retention
import CheckpointFabric.Properties.Protection
import CheckpointFabric.Properties.Window
import CheckpointFabric.Properties.Ownership
import CheckpointFabric.Properties.Retirement
import CheckpointFabric.Properties.Staleness
import CheckpointFabric.Walks
import CheckpointFabric.Properties.Ancestors
import CheckpointFabric.Properties.Compatibility
import CheckpointFabric.Properties.HandlerVersions
import CheckpointFabric.Properties.ContextRefs
import CheckpointFabric.Properties.DryRun
import CheckpointFabric.Properties.Policies
import CheckpointFabric.Rpc
import CheckpointFabric.Properties.Responses
import CheckpointFabric.Server
import CheckpointFabric.Properties.Permits
import CheckpointFabric.Wire.Json
import CheckpointFabric.Serialization
import CheckpointFabric.Properties.Sealing
import CheckpointFabric.Storage
import CheckpointFabric.Messages
import CheckpointFabric.Properties.Confinement
import CheckpointFabric.Properties.Streams
import CheckpointFabric.Steps.Reservations
import CheckpointFabric.Properties.Reservations
import CheckpointFabric.Properties.Attempts
import CheckpointFabric.Properties.Records
import CheckpointFabric.Runtime
import CheckpointFabric.Properties.Contact
import CheckpointFabric.Files.Moves
import CheckpointFabric.Directories
import CheckpointFabric.Properties.Directories
import CheckpointFabric.Properties.Listings
import CheckpointFabric.Fetching
import CheckpointFabric.Properties.Fetching
import CheckpointFabric.Properties.RestoreOutcome
import CheckpointFabric.Conversation
import CheckpointFabric.Properties.Conversation
import CheckpointFabric.Properties.CaptureAuthority
import CheckpointFabric.Alone.Served
import CheckpointFabric.Alone.ServedRestore
import CheckpointFabric.Properties.RepeatedRestore
import CheckpointFabric.Properties.Verdicts
import CheckpointFabric.Properties.StoppedRestore
