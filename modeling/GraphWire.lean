import GraphWire.Json.Basic
import GraphWire.Text.Blank
import GraphWire.Text.Printable
import GraphWire.Text.GraphemeExtend
import GraphWire.Decimal.Binary64
import GraphWire.Decimal.Shortest
import GraphWire.Decimal.Layout
import GraphWire.Json.Reader
import GraphWire.Json.Writer
import GraphWire.Value.Basic
import GraphWire.Value.Text
import GraphWire.Value.Extract
import GraphWire.RowSet
import GraphWire.Graph
import GraphWire.Json.Schema
import GraphWire.Time.Instant
import GraphWire.Time.Rfc2822
import GraphWire.Transport.Url
import GraphWire.Transport.Error
import GraphWire.Toml.Error
import GraphWire.Config.Error
import GraphWire.Config.Basic
import GraphWire.Config.Overrides
import GraphWire.Toml.Token
import GraphWire.Toml.Syntax
import GraphWire.Toml.Datetime
import GraphWire.Toml.Value
import GraphWire.Toml.Decode
import GraphWire.Toml.Document
import GraphWire.Toml.Writer
import GraphWire.Config.TomlFile
import GraphWire.Config.JsonFile
import GraphWire.Config.Loader
import GraphWire.Envelope.Basic
import GraphWire.Envelope.Error
import GraphWire.Envelope.Decode
import GraphWire.Envelope.Results
import GraphWire.Continuation
import GraphWire.Statement
import GraphWire.Client.Endpoints
import GraphWire.Client.Error
import GraphWire.Report
import GraphWire.Wire
import GraphWire.Registry.Table
import GraphWire.Transaction.Basic
import GraphWire.Transaction.Steps
import GraphWire.Client.Session
import GraphWire.Client.Build
import GraphWire.Text.Jaro
import GraphWire.Cli.Grammar
import GraphWire.Cli.Error
import GraphWire.Cli.Help
import GraphWire.Cli.Parse
import GraphWire.Cli.Table
import GraphWire.Cli.Output
import GraphWire.Cli.Run
import GraphWire.Main
import GraphWire.Proofs.Transaction.Invariant
import GraphWire.Proofs.Transaction.Run
import GraphWire.Proofs.Transaction.Faults
import GraphWire.Proofs.Transaction.Batch
import GraphWire.Proofs.Transaction.Route
import GraphWire.Proofs.Client.Registry
import GraphWire.Proofs.Client.Settle
import GraphWire.Proofs.Results.Graph
import GraphWire.Proofs.Results.RowSet
import GraphWire.Proofs.Results.Access
import GraphWire.Proofs.Statement.Race
import GraphWire.Proofs.Value.Json
import GraphWire.Proofs.Json.Schema
import GraphWire.Proofs.Envelope.Identity
import GraphWire.Proofs.Cli.Batch
import GraphWire.Proofs.Config.Overrides
