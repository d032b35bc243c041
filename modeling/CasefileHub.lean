import CasefileHub.Binary64
import CasefileHub.Binary64.Decimal
import CasefileHub.Casefile
import CasefileHub.Catalog
import CasefileHub.Catalog.Builtin
import CasefileHub.Catalog.Consistency
import CasefileHub.Catalog.Drift
import CasefileHub.Classification
import CasefileHub.CommandLine
import CasefileHub.Config
import CasefileHub.Dispatch.Context
import CasefileHub.Dispatch.Event
import CasefileHub.Dispatch.Hook
import CasefileHub.Dispatch.Route
import CasefileHub.Entries
import CasefileHub.Error
import CasefileHub.Files
import CasefileHub.Hub
import CasefileHub.Identifier
import CasefileHub.Invocation
import CasefileHub.Invocation.Admission
import CasefileHub.Invocation.Caller
import CasefileHub.Json.Basic
import CasefileHub.Json.Decode
import CasefileHub.Json.Members
import CasefileHub.Json.Printer
import CasefileHub.Json.Reader
import CasefileHub.Json.Token
import CasefileHub.Main
import CasefileHub.Method
import CasefileHub.Parameter
import CasefileHub.Parameter.Validation
import CasefileHub.Pattern.Basic
import CasefileHub.Pattern.Class
import CasefileHub.Pattern.Escape
import CasefileHub.Pattern.Named
import CasefileHub.Pattern.Parser
import CasefileHub.Pattern.Size
import CasefileHub.Payload
import CasefileHub.Policy
import CasefileHub.Proofs.Binary64.Nearest
import CasefileHub.Proofs.Binary64.Rounding
import CasefileHub.Proofs.Catalog.Batch
import CasefileHub.Proofs.Catalog.Consistency
import CasefileHub.Proofs.Catalog.Declaration
import CasefileHub.Proofs.Catalog.Drift
import CasefileHub.Proofs.Catalog.History
import CasefileHub.Proofs.Catalog.Order
import CasefileHub.Proofs.Catalog.References
import CasefileHub.Proofs.Catalog.Report
import CasefileHub.Proofs.Catalog.Routing
import CasefileHub.Proofs.Catalog.Unbound
import CasefileHub.Proofs.Classification
import CasefileHub.Proofs.CommandLine.Conversation
import CasefileHub.Proofs.CommandLine.Line
import CasefileHub.Proofs.CommandLine.NoTrace
import CasefileHub.Proofs.Dispatch.Accounting
import CasefileHub.Proofs.Dispatch.Answer
import CasefileHub.Proofs.Dispatch.Atomicity
import CasefileHub.Proofs.Dispatch.Deadline
import CasefileHub.Proofs.Dispatch.Fetches
import CasefileHub.Proofs.Dispatch.Follows
import CasefileHub.Proofs.Dispatch.Indifference
import CasefileHub.Proofs.Dispatch.Parts
import CasefileHub.Proofs.Dispatch.Promptness
import CasefileHub.Proofs.Dispatch.Route
import CasefileHub.Proofs.Dispatch.Runs
import CasefileHub.Proofs.Dispatch.Silence
import CasefileHub.Proofs.Envelope
import CasefileHub.Proofs.Identifier
import CasefileHub.Proofs.Invocation.Attempts
import CasefileHub.Proofs.Invocation.Binding
import CasefileHub.Proofs.Invocation.Direct
import CasefileHub.Proofs.Invocation.Execution
import CasefileHub.Proofs.Invocation.Gates
import CasefileHub.Proofs.Invocation.Payloads
import CasefileHub.Proofs.Invocation.Preview
import CasefileHub.Proofs.Invocation.Quotas
import CasefileHub.Proofs.Invocation.Resubmission
import CasefileHub.Proofs.Invocation.Retries
import CasefileHub.Proofs.Json.Alike
import CasefileHub.Proofs.Json.Codec
import CasefileHub.Proofs.Json.Decode
import CasefileHub.Proofs.Json.Normal
import CasefileHub.Proofs.Json.Printer
import CasefileHub.Proofs.Json.Reading
import CasefileHub.Proofs.Json.Size
import CasefileHub.Proofs.Json.Tokens
import CasefileHub.Proofs.Parameter.Bounds
import CasefileHub.Proofs.Parameter.Codec
import CasefileHub.Proofs.Parameter.Conformance
import CasefileHub.Proofs.Parameter.Encoding
import CasefileHub.Proofs.Parameter.Validation
import CasefileHub.Proofs.Payload
import CasefileHub.Proofs.Policy
import CasefileHub.Proofs.Quota
import CasefileHub.Proofs.Quota.Sequence
import CasefileHub.Proofs.Quota.Window
import CasefileHub.Proofs.Registry.Conflicts
import CasefileHub.Proofs.Registry.History
import CasefileHub.Proofs.Renaming.Calls
import CasefileHub.Proofs.Renaming.Dispatch
import CasefileHub.Proofs.Renaming.Existence
import CasefileHub.Proofs.Renaming.Requests
import CasefileHub.Proofs.Renaming.Values
import CasefileHub.Proofs.Service
import CasefileHub.Proofs.Schema.Wrappers
import CasefileHub.Proofs.Service.Recorded
import CasefileHub.Proofs.Service.Timeline
import CasefileHub.Proofs.Store
import CasefileHub.Proofs.Store.Commutation
import CasefileHub.Proofs.Store.History
import CasefileHub.Proofs.Store.Integrity
import CasefileHub.Proofs.Store.Links
import CasefileHub.Proofs.Store.Operations
import CasefileHub.Proofs.Store.Renaming
import CasefileHub.Proofs.Store.Replay
import CasefileHub.Proofs.Store.Timeless
import CasefileHub.Proofs.Table
import CasefileHub.Proofs.Text.Join
import CasefileHub.Proofs.Timed
import CasefileHub.Proofs.Timed.Alike
import CasefileHub.Proofs.Timed.Follows
import CasefileHub.Proofs.Timed.Prompt
import CasefileHub.Proofs.Workflow
import CasefileHub.Proofs.Workflow.Discipline
import CasefileHub.Proofs.Workflow.Effects
import CasefileHub.Proofs.Workflow.Repetition
import CasefileHub.Quota
import CasefileHub.Record
import CasefileHub.Record.Declaration
import CasefileHub.Registry
import CasefileHub.Rehearsal
import CasefileHub.Rehearsal.Script
import CasefileHub.Request
import CasefileHub.Response
import CasefileHub.Schema
import CasefileHub.Schema.Parameters
import CasefileHub.Service
import CasefileHub.Store
import CasefileHub.Table
import CasefileHub.Text.Blank
import CasefileHub.Text.CaseFolding
import CasefileHub.Text.Category
import CasefileHub.Text.CategoryRuns
import CasefileHub.Text.Property
import CasefileHub.Text.PropertyRuns
import CasefileHub.Text.Quoted
import CasefileHub.Text.Run
import CasefileHub.Text.Script
import CasefileHub.Text.ScriptRuns
import CasefileHub.Timed
import CasefileHub.Timestamp
import CasefileHub.Tool
import CasefileHub.Violation
import CasefileHub.Workflow
import CasefileHub.Yaml.Cursor
import CasefileHub.Yaml.Decode
import CasefileHub.Yaml.Node
import CasefileHub.Yaml.Scalar
import CasefileHub.Yaml.Token
