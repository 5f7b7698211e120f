import Ensemble.Text.Blank
import Ensemble.Text.LowerCase
import Ensemble.Text.Lines
import Ensemble.Text.HiddenTable
import Ensemble.Number.Decimal
import Ensemble.Json.Reader
import Ensemble.Document.Datum
import Ensemble.Json.Writer
import Ensemble.Text.Quoted
import Ensemble.Text.Utf8
import Ensemble.Document.Decoding
import Ensemble.Coordination.Request
import Ensemble.Coordination.ResultKeys
import Ensemble.Coordination.Report
import Ensemble.Workflow.RunId
import Ensemble.Workflow.Moment
import Ensemble.Error
import Ensemble.Agent.Profile
import Ensemble.Project.Settings
import Ensemble.Workflow.Definition
import Ensemble.Workflow.Report
import Ensemble.Workflow.Event
import Ensemble.Agent.Subtask
import Ensemble.Agent.Prompt
import Ensemble.Coordination.Synthesis
import Ensemble.Coordination.Groups
import Ensemble.CommandLine.Render
import Ensemble.Endpoint.Basic
import Ensemble.Agent.Registry
import Ensemble.Session.Coordinate
import Ensemble.Workflow.Run
import Ensemble.Yaml.Cursor
import Ensemble.Yaml.Scalar
import Ensemble.Yaml.Token
import Ensemble.Yaml.Node
import Ensemble.Number.Literal
import Ensemble.Yaml.Content
import Ensemble.Agent.Document
import Ensemble.Workflow.Document
import Ensemble.File.Outcome
import Ensemble.Toml.Reader
import Ensemble.Project.Scaffold
import Ensemble.Project.Session
import Ensemble.CommandLine.Execution
import Ensemble.Endpoint.Replay
import Ensemble.Endpoint.Wire
import Ensemble.Workflow.Clock
import Ensemble.Main
import Ensemble.Proofs.Dictionary
import Ensemble.Proofs.Session.Exchange
import Ensemble.Proofs.Coordination.ResultKeys
import Ensemble.Proofs.Workflow.Account
import Ensemble.Proofs.Agent.Prompt
import Ensemble.Proofs.Workflow.DataFlow
import Ensemble.Proofs.Coordination.Alignment
import Ensemble.Proofs.Coordination.HybridFlow
import Ensemble.Proofs.Coordination.Shadowing
import Ensemble.Proofs.Workflow.Truncation
import Ensemble.Proofs.Workflow.Narration
import Ensemble.Proofs.Coordination.Chain
import Ensemble.Proofs.Coordination.Schedule
import Ensemble.Proofs.Coordination.Agreement
import Ensemble.Proofs.Coordination.Completion
import Ensemble.Proofs.Workflow.Isolation
import Ensemble.Proofs.Agent.Registry
import Ensemble.Proofs.Coordination.Failure
import Ensemble.Proofs.Session.Refusal
import Ensemble.Proofs.Session.Roster
import Ensemble.Proofs.Text.Order
import Ensemble.Proofs.Session.Collaboration
import Ensemble.Proofs.Agent.Directory
import Ensemble.Proofs.Session.Conduct
import Ensemble.Proofs.Session.Inertness
import Ensemble.Proofs.Session.Operation
import Ensemble.Proofs.Session.Privacy
import Ensemble.Proofs.Session.Remembering
import Ensemble.Proofs.File.Order
import Ensemble.Proofs.Project.Loading
import Ensemble.Proofs.Project.Acceptance
import Ensemble.Proofs.Text.Digits
import Ensemble.Proofs.Workflow.RunId
import Ensemble.Proofs.Workflow.Moment
import Ensemble.Proofs.Document.Reading
import Ensemble.Proofs.Document.Steadiness
import Ensemble.Proofs.Document.RoundTrip
import Ensemble.Proofs.Document.Storage
import Ensemble.Proofs.Project.Reencoding
import Ensemble.Proofs.Json.Width
import Ensemble.Proofs.Coordination.KeySearch
import Ensemble.Proofs.Project.Lookup
import Ensemble.Proofs.Agent.History
import Ensemble.Proofs.Session.Chronicle
import Ensemble.Proofs.Json.RoundTrip
import Ensemble.Proofs.File.Writing
import Ensemble.Proofs.CommandLine.Running
import Ensemble.Proofs.Json.Acceptance
import Ensemble.Proofs.Agent.Subtask
import Ensemble.Proofs.Coordination.Halting
import Ensemble.Proofs.Coordination.Tiling
import Ensemble.Proofs.Session.ReportLookup
import Ensemble.Proofs.Workflow.Naming
import Ensemble.Proofs.CommandLine.Grouping
import Ensemble.Proofs.Text.Bytes
import Ensemble.Proofs.Document.Reordering
import Ensemble.Proofs.Context
import Ensemble.Proofs.Text.Lines
import Ensemble.Proofs.File.Path
import Ensemble.Proofs.File.Location
import Ensemble.Proofs.File.Directory
import Ensemble.Proofs.File.Frame
import Ensemble.Proofs.File.Standing
import Ensemble.Proofs.File.Series
import Ensemble.Proofs.Project.Generation
