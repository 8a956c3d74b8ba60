import PipelineEditor.Text.Blank
import PipelineEditor.Text.Lower
import PipelineEditor.Text.Alphanumeric
import PipelineEditor.Text.Regex
import PipelineEditor.Text.Table
import PipelineEditor.Text.Canonical
import PipelineEditor.Text.Mark
import PipelineEditor.Text.Direction
import PipelineEditor.Text.Joining
import PipelineEditor.Decimal.Shortest
import PipelineEditor.Decimal.Layout
import PipelineEditor.Decimal.Read
import PipelineEditor.Json.Basic
import PipelineEditor.Json.Read
import PipelineEditor.Json.Write
import PipelineEditor.Json.Decode
import PipelineEditor.Table
import PipelineEditor.Error
import PipelineEditor.Graph.Port
import PipelineEditor.Graph.Node
import PipelineEditor.Graph.Edge
import PipelineEditor.Graph.Basic
import PipelineEditor.Graph.Order
import PipelineEditor.Graph.Store
import PipelineEditor.Graph.Slots
import PipelineEditor.Graph.Pipeline
import PipelineEditor.View.Transform
import PipelineEditor.Catalog.ParamKind
import PipelineEditor.Catalog.Structure
import PipelineEditor.Catalog.Basic
import PipelineEditor.Params.Store
import PipelineEditor.Editor.Selection
import PipelineEditor.Editor.Basic
import PipelineEditor.Editor.Connect
import PipelineEditor.Editor.Commands
import PipelineEditor.Editor.Copy
import PipelineEditor.Snapshot.Basic
import PipelineEditor.Snapshot.Load
import PipelineEditor.Script.Basic
import PipelineEditor.Script.Load
import PipelineEditor.Export.Basic
import PipelineEditor.Toml.Value
import PipelineEditor.Toml.Read
import PipelineEditor.Toml.Write
import PipelineEditor.Storage.Path
import PipelineEditor.Storage.Basic
import PipelineEditor.Storage.Disk
import PipelineEditor.Settings.Config
import PipelineEditor.Logging.Directive
import PipelineEditor.Logging.Filter
import PipelineEditor.Logging.Sink
import PipelineEditor.Url.Encode
import PipelineEditor.Url.Idna.Map
import PipelineEditor.Url.Idna.Punycode
import PipelineEditor.Url.Idna.Basic
import PipelineEditor.Url.Host
import PipelineEditor.Url.Basic
import PipelineEditor.Loading.Files
import PipelineEditor.Loading.Decompiler
import PipelineEditor.Command.Args
import PipelineEditor.Command.Summary
import PipelineEditor.Command.Run
import PipelineEditor.Proofs.AnyKey
import PipelineEditor.Proofs.Invariant.Basic
import PipelineEditor.Proofs.Invariant.Nodes
import PipelineEditor.Proofs.Invariant.Edges
import PipelineEditor.Proofs.Invariant.Copy
import PipelineEditor.Proofs.Invariant.Catalog
import PipelineEditor.Proofs.Invariant.Script
import PipelineEditor.Proofs.Session
import PipelineEditor.Proofs.Invariant.AnyCatalog
import PipelineEditor.Proofs.Snapshot.Load
import PipelineEditor.Proofs.Snapshot.RoundTrip
import PipelineEditor.Proofs.Binary64
import PipelineEditor.Proofs.Positions
import PipelineEditor.Proofs.Atomicity
import PipelineEditor.Proofs.Commands.Delete
import PipelineEditor.Proofs.Commands.Connect
import PipelineEditor.Proofs.Commands.Rename
import PipelineEditor.Proofs.Commands.Copy
import PipelineEditor.Proofs.Commands.Create
import PipelineEditor.Proofs.Commands.CompatiblePorts
import PipelineEditor.Proofs.Loading.Entries
import PipelineEditor.Proofs.Loading.Edges
import PipelineEditor.Proofs.Loading.Snapshot
import PipelineEditor.Proofs.Loading.Script
import PipelineEditor.Main
import PipelineEditor.Proofs.TypeGrammar
import PipelineEditor.Proofs.Snapshot.EdgeKeys
import PipelineEditor.Proofs.Graph.RunningOrder
import PipelineEditor.Proofs.Graph.Refinement
import PipelineEditor.Proofs.Graph.Slots
import PipelineEditor.Proofs.Graph.Pipeline
import PipelineEditor.Proofs.Invariant.Packages
import PipelineEditor.Proofs.Export
import PipelineEditor.Proofs.View.TransformText
import PipelineEditor.Proofs.Decimal.ReadBack
import PipelineEditor.Proofs.Json.Text
import PipelineEditor.Proofs.Snapshot.Payload
import PipelineEditor.Proofs.Snapshot.Text
