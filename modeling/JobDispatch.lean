import JobDispatch.Api.MediaType
import JobDispatch.Api.Router
import JobDispatch.Blob.Error
import JobDispatch.Blob.Store
import JobDispatch.Blob.Tree
import JobDispatch.Client
import JobDispatch.Config
import JobDispatch.Console
import JobDispatch.Crypto.Sha256
import JobDispatch.Dispatch.Admission
import JobDispatch.Dispatch.Error
import JobDispatch.Dispatch.Event
import JobDispatch.Dispatch.Lease
import JobDispatch.Dispatch.Leases
import JobDispatch.Dispatch.Payload
import JobDispatch.Dispatch.Watermark
import JobDispatch.Job.Basic
import JobDispatch.Job.Kind
import JobDispatch.Json.Decode
import JobDispatch.Json.Double
import JobDispatch.Json.Parse
import JobDispatch.Json.Print
import JobDispatch.Json.Shape
import JobDispatch.Json.Value
import JobDispatch.Main
import JobDispatch.Metrics
import JobDispatch.Orchestrator.Basic
import JobDispatch.Orchestrator.Dispatch
import JobDispatch.Orchestrator.Jobs
import JobDispatch.Orchestrator.Reaper
import JobDispatch.Orchestrator.Requests
import JobDispatch.Orchestrator.Runners
import JobDispatch.Proofs.Admission.Accounting
import JobDispatch.Proofs.Admission.Callers
import JobDispatch.Proofs.Admission.Scheduler
import JobDispatch.Proofs.Orchestrator.Claims
import JobDispatch.Proofs.Orchestrator.Exec
import JobDispatch.Proofs.Orchestrator.Marks
import JobDispatch.Proofs.Orchestrator.Poll
import JobDispatch.Proofs.Orchestrator.Services
import JobDispatch.Proofs.Store.Index
import JobDispatch.Proofs.Store.Lifecycle
import JobDispatch.Proofs.Store.Numbering
import JobDispatch.Proofs.Store.Steps
import JobDispatch.Proofs.Trace.Ownership
import JobDispatch.Proofs.Trace.Paging
import JobDispatch.Proofs.Store.Accounts
import JobDispatch.Proofs.Orchestrator.Ledger
import JobDispatch.Proofs.Orchestrator.Balance
import JobDispatch.Proofs.Orchestrator.RunnerWrites
import JobDispatch.Proofs.Json.Decoders
import JobDispatch.Proofs.Trace.Wire
import JobDispatch.Proofs.Orchestrator.Frames
import JobDispatch.Proofs.Orchestrator.Namespaces
import JobDispatch.Proofs.Admission.Limits
import JobDispatch.Runner.Basic
import JobDispatch.Startup
import JobDispatch.Store.Backend
import JobDispatch.Store.Connection
import JobDispatch.Store.Filter
import JobDispatch.Store.Memory
import JobDispatch.Text.Bytes
import JobDispatch.Text.Combining
import JobDispatch.Text.FormUrl
import JobDispatch.Text.Idna
import JobDispatch.Text.Idna.Mapping
import JobDispatch.Text.Idna.Punycode
import JobDispatch.Text.IpAddress
import JobDispatch.Text.Numeral
import JobDispatch.Text.Printable
import JobDispatch.Text.Unicode.Bidi
import JobDispatch.Text.Unicode.Canonical
import JobDispatch.Text.Unicode.Joining
import JobDispatch.Text.Unicode.Mark
import JobDispatch.Text.Unicode.Normal
import JobDispatch.Text.Unicode.Table
import JobDispatch.Text.Url
import JobDispatch.Time
import JobDispatch.Trace.Entry
import JobDispatch.Uuid
import JobDispatch.Wrapping
import JobDispatch.Proofs.Json.Records
import JobDispatch.Proofs.Json.RoundTrip
import JobDispatch.Proofs.Time.Text
import JobDispatch.Proofs.Uuid.Text
import JobDispatch.Proofs.Trace.Resend
import JobDispatch.Proofs.Trace.Race
import JobDispatch.Proofs.Orchestrator.Alike
import JobDispatch.Proofs.Api.Outage
import JobDispatch.Proofs.Blob.Edits
import JobDispatch.Proofs.Blob.Refinement
import JobDispatch.Proofs.Trace.Files
import JobDispatch.Proofs.Blob.Scope
import JobDispatch.Proofs.Orchestrator.Sweep
import JobDispatch.Proofs.Orchestrator.Claiming
import JobDispatch.Proofs.Orchestrator.Announcing
import JobDispatch.Proofs.Dispatch.LeaseRuns
import JobDispatch.Proofs.Dispatch.MarkRuns
import JobDispatch.Proofs.Orchestrator.Routing
import JobDispatch.Proofs.Config.AccessTokens
import JobDispatch.Proofs.Orchestrator.UserZones
