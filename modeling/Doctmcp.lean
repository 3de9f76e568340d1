import Doctmcp.Lib.OrderedMap
import Doctmcp.Lib.Runs
import Doctmcp.Lib.JsString
import Doctmcp.Lib.Operation
import Doctmcp.Lib.Simulation
import Doctmcp.Lib.Sha256
import Doctmcp.Lib.Heap
import Doctmcp.Lib.Outbox
import Doctmcp.Lib.Occurrences
import Doctmcp.Lib.Utf8
import Doctmcp.Lib.Utf16
import Doctmcp.Lib.UpperCase
import Doctmcp.Lib.Json
import Doctmcp.Lib.History
import Doctmcp.Lib.Automaton
import Doctmcp.Lib.PosixPath
import Doctmcp.Lib.Promises
import Doctmcp.Lib.FileSystem
import Doctmcp.Lib.FileChange
import Doctmcp.Lib.Traversal
import Doctmcp.Schemas.Errors
import Doctmcp.Schemas.Records
import Doctmcp.Credential.Memory
import Doctmcp.Credential.Generations
import Doctmcp.Device.Repository
import Doctmcp.Device.Listing
import Doctmcp.Device.Ownership
import Doctmcp.Pairing.Memory
import Doctmcp.Storage.Database
import Doctmcp.Storage.Migrations
import Doctmcp.Credential.Sqlite
import Doctmcp.Credential.Conformance
import Doctmcp.Credential.Checks
import Doctmcp.Credential.Agreement
import Doctmcp.Device.Sqlite
import Doctmcp.Device.Agreement
import Doctmcp.Pairing.Sqlite
import Doctmcp.Pairing.SingleUse
import Doctmcp.Pairing.Conformance
import Doctmcp.Pairing.Pruning
import Doctmcp.Pairing.Correspondence
import Doctmcp.Pairing.Agreement
import Doctmcp.Pairing.Tombstones
import Doctmcp.Lib.Binary64
import Doctmcp.Pairing.AbuseGuard
import Doctmcp.Pairing.RateLimit
import Doctmcp.PublicMcp.CallerServer
import Doctmcp.PublicMcp.PublicNames
import Doctmcp.PublicMcp.OwnerId
import Doctmcp.PublicMcp.PairTool
import Doctmcp.PublicMcp.DeviceCap
import Doctmcp.PublicMcp.Availability
import Doctmcp.Pairing.Codes
import Doctmcp.Completion.Repository
import Doctmcp.Completion.Sqlite
import Doctmcp.Completion.Correspondence
import Doctmcp.Completion.Agreement
import Doctmcp.Completion.Capacity
import Doctmcp.Credential.Service
import Doctmcp.Pairing.Service
import Doctmcp.Completion.Service
import Doctmcp.Completion.Steps
import Doctmcp.Completion.Calls
import Doctmcp.Completion.Invariant
import Doctmcp.Completion.Promise
import Doctmcp.Completion.Recovery
import Doctmcp.Channel.Coordinator
import Doctmcp.Channel.Objects
import Doctmcp.Channel.Segments
import Doctmcp.Channel.Steps
import Doctmcp.Channel.Delivered
import Doctmcp.Channel.Secrecy
import Doctmcp.Exclusion.Chain
import Doctmcp.Exclusion.Coordinator
import Doctmcp.Exclusion.Exclusive
import Doctmcp.Exclusion.Progress
import Doctmcp.Gateway.Session
import Doctmcp.Gateway.Heartbeat
import Doctmcp.Gateway.HeartbeatSteps
import Doctmcp.Gateway.HeartbeatRuns
import Doctmcp.Bridge.Protocol
import Doctmcp.Bridge.ClientTransport
import Doctmcp.Bridge.Outgoing
import Doctmcp.Bridge.Binding
import Doctmcp.Bridge.Closing
import Doctmcp.Gateway.Connections
import Doctmcp.Gateway.Moves
import Doctmcp.Gateway.Handshakes
import Doctmcp.Gateway.Life
import Doctmcp.Gateway.Table
import Doctmcp.Agent.DeviceCredentialProvider
import Doctmcp.Agent.PairingClient
import Doctmcp.Agent.PairingSteps
import Doctmcp.Agent.PairingWait
import Doctmcp.Agent.ServerTransport
import Doctmcp.Routing.Registry
import Doctmcp.Routing.Consistency
import Doctmcp.Routing.Heartbeat
import Doctmcp.Routing.Accepted
import Doctmcp.Routing.ClientRegistry
import Doctmcp.Routing.OneClient
import Doctmcp.Routing.Service
import Doctmcp.Routing.Isolation
import Doctmcp.Agent.Wakeup
import Doctmcp.Agent.Callbacks
import Doctmcp.Agent.Reconnect
import Doctmcp.Agent.CredentialFile
import Doctmcp.Agent.CredentialCrash
import Doctmcp.Agent.Attempts
import Doctmcp.Agent.Failures
import Doctmcp.Agent.Lifecycle
import Doctmcp.Tools.Errors
import Doctmcp.Tools.ShellExec
import Doctmcp.Tools.Workspace
import Doctmcp.Tools.Resolver
import Doctmcp.Tools.Containment
import Doctmcp.Tools.Canonical
import Doctmcp.Tools.FilesystemRead
import Doctmcp.Tools.Listing
import Doctmcp.Tools.Searching
import Doctmcp.Tools.Exposure
import Doctmcp.Tools.Completeness
import Doctmcp.Tools.Paging
import Doctmcp.Tools.FilesystemWrite
import Doctmcp.Tools.Replacing
import Doctmcp.Tools.Overwriting
import Doctmcp.Tools.Patching
import Doctmcp.Tools.Confined
import Doctmcp.Tools.Termination
import Doctmcp.Tools.Capture
import Doctmcp.Lib.Counters
import Doctmcp.Runtime.Generations
import Doctmcp.Runtime.ServerRuntime
import Doctmcp.Runtime.Sound
import Doctmcp.Runtime.Steps
import Doctmcp.Runtime.Operations
import Doctmcp.Runtime.Continuation
import Doctmcp.Runtime.Guarantees
