import SchemaGate.Awaited
import SchemaGate.Broker.Decoding
import SchemaGate.Broker.Encoding
import SchemaGate.Broker.ErrorCode
import SchemaGate.Broker.Fetch
import SchemaGate.Broker.Message
import SchemaGate.Broker.Produce
import SchemaGate.Broker.Record
import SchemaGate.Broker.Topic
import SchemaGate.Broker.Word
import SchemaGate.Command.Check
import SchemaGate.Command.Error
import SchemaGate.Command.Invocation
import SchemaGate.Command.Parameter
import SchemaGate.Command.Report
import SchemaGate.Command.Run
import SchemaGate.Gate.Configuration
import SchemaGate.Gate.Error
import SchemaGate.Gate.Failure
import SchemaGate.Gate.Handling
import SchemaGate.Gate.Message
import SchemaGate.Gate.Phase
import SchemaGate.Gate.Policy
import SchemaGate.Gate.Surface
import SchemaGate.Json.Compare
import SchemaGate.Json.Fault
import SchemaGate.Json.Print
import SchemaGate.Json.Read
import SchemaGate.Json.Shape
import SchemaGate.Json.Token
import SchemaGate.Json.Value
import SchemaGate.Main
import SchemaGate.Number.Power
import SchemaGate.Number.Shortest
import SchemaGate.Pattern.Basic
import SchemaGate.Pattern.Read
import SchemaGate.Proofs.Broker.Delivery
import SchemaGate.Proofs.Broker.Limits
import SchemaGate.Proofs.Broker.Lookup
import SchemaGate.Proofs.Broker.Reencoding
import SchemaGate.Proofs.Broker.RoundTrip
import SchemaGate.Proofs.Broker.Size
import SchemaGate.Proofs.Broker.Topic
import SchemaGate.Proofs.Broker.Truncation
import SchemaGate.Proofs.Command.Blame
import SchemaGate.Proofs.Command.Course
import SchemaGate.Proofs.Command.Errors
import SchemaGate.Proofs.Command.Framing
import SchemaGate.Proofs.Command.Lint
import SchemaGate.Proofs.Command.Printing
import SchemaGate.Proofs.Command.Report
import SchemaGate.Proofs.Command.Stages
import SchemaGate.Proofs.Gate.Agreement
import SchemaGate.Proofs.Gate.Answer
import SchemaGate.Proofs.Gate.Binding
import SchemaGate.Proofs.Gate.Buffering
import SchemaGate.Proofs.Gate.Call
import SchemaGate.Proofs.Gate.Cancellation
import SchemaGate.Proofs.Gate.Cause
import SchemaGate.Proofs.Gate.ConfigurationText
import SchemaGate.Proofs.Gate.Construction
import SchemaGate.Proofs.Gate.Exposure
import SchemaGate.Proofs.Gate.Isolation
import SchemaGate.Proofs.Gate.Marking
import SchemaGate.Proofs.Gate.Publish
import SchemaGate.Proofs.Gate.Recording
import SchemaGate.Proofs.Gate.Run
import SchemaGate.Proofs.Gate.Subscribe
import SchemaGate.Proofs.Gate.Transport
import SchemaGate.Proofs.Gate.Unresolved
import SchemaGate.Proofs.Gate.Verdict
import SchemaGate.Proofs.Gate.Withdrawal
import SchemaGate.Proofs.Json.Shape
import SchemaGate.Proofs.Json.Text
import SchemaGate.Proofs.Json.Value
import SchemaGate.Proofs.Schema.Directory
import SchemaGate.Proofs.Template.Concatenation
import SchemaGate.Proofs.Template.Substitution
import SchemaGate.Proofs.Text.NameMap
import SchemaGate.Proofs.Text.Table
import SchemaGate.Proofs.Validation.Cache
import SchemaGate.Proofs.Validation.Options
import SchemaGate.Rules.Basic
import SchemaGate.Rules.Check
import SchemaGate.Rules.Compile
import SchemaGate.Rules.Format
import SchemaGate.Rules.MetaSchema
import SchemaGate.Rules.Reference
import SchemaGate.Rules.System
import SchemaGate.Rules.Violation
import SchemaGate.Schema.Basic
import SchemaGate.Schema.Directory
import SchemaGate.Schema.Error
import SchemaGate.Schema.Registry
import SchemaGate.Schema.Resolution
import SchemaGate.Schema.Source
import SchemaGate.Template
import SchemaGate.Text.Blank
import SchemaGate.Text.NameMap
import SchemaGate.Text.Printable
import SchemaGate.Text.Quoted
import SchemaGate.Text.Table
import SchemaGate.Text.Utf8
import SchemaGate.Text.Width
import SchemaGate.Validation.Engine
import SchemaGate.Validation.Report
import SchemaGate.Validation.Rules
