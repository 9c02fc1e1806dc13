import ApiCompiler.Binary64
import ApiCompiler.Binary64.Format
import ApiCompiler.Calendar
import ApiCompiler.CharacterName
import ApiCompiler.CharacterName.Chart0000
import ApiCompiler.CharacterName.Chart13000
import ApiCompiler.CharacterName.Chart1C00
import ApiCompiler.CharacterName.Chart1D400
import ApiCompiler.CharacterName.Chart2800
import ApiCompiler.CharacterName.ChartFC00
import ApiCompiler.Charset
import ApiCompiler.Charset.BigFiveChart
import ApiCompiler.Charset.Designated
import ApiCompiler.Charset.Escaped
import ApiCompiler.Charset.Grid
import ApiCompiler.Charset.GuoBiaoChart
import ApiCompiler.Charset.Hangul
import ApiCompiler.Charset.KanjiChart
import ApiCompiler.Charset.MultiByte
import ApiCompiler.Charset.Shifted
import ApiCompiler.Charset.SingleByte
import ApiCompiler.CommandLine
import ApiCompiler.CommandLine.Option
import ApiCompiler.CommandLine.Invocation
import ApiCompiler.Compile
import ApiCompiler.Config
import ApiCompiler.Deflate
import ApiCompiler.Document.Aliased
import ApiCompiler.Document.Normalise
import ApiCompiler.Document.Operation
import ApiCompiler.Document.Parse
import ApiCompiler.Document.Reference
import ApiCompiler.Document.Sample
import ApiCompiler.Failure
import ApiCompiler.Failure.Kind
import ApiCompiler.Files.Disk
import ApiCompiler.Files.Path
import ApiCompiler.Files.Utf8
import ApiCompiler.Files.Volume
import ApiCompiler.Generation
import ApiCompiler.HostName
import ApiCompiler.HostName.Neighbour
import ApiCompiler.HostName.Permitted
import ApiCompiler.HostName.Punycode
import ApiCompiler.Json
import ApiCompiler.Main
import ApiCompiler.MediaType
import ApiCompiler.Model
import ApiCompiler.Model.FieldName
import ApiCompiler.Model.TypeExpr
import ApiCompiler.Named
import ApiCompiler.Naming.Identifier
import ApiCompiler.Naming.Procedure
import ApiCompiler.Naming.Spelling
import ApiCompiler.Package
import ApiCompiler.Package.ClientSource
import ApiCompiler.Package.ModuleSource
import ApiCompiler.Package.Components
import ApiCompiler.Package.Context
import ApiCompiler.Package.Forwarding
import ApiCompiler.Package.Install
import ApiCompiler.Package.Source
import ApiCompiler.Package.SupportSource
import ApiCompiler.PathTemplate
import ApiCompiler.Pattern
import ApiCompiler.Pointer
import ApiCompiler.Registry
import ApiCompiler.Report
import ApiCompiler.Retrieval
import ApiCompiler.Route
import ApiCompiler.Route.Call
import ApiCompiler.Route.Parameter
import ApiCompiler.Schema
import ApiCompiler.Schema.Resolve
import ApiCompiler.Schema.Table
import ApiCompiler.Schema.Writable
import ApiCompiler.Text.Alphanumeric
import ApiCompiler.Text.Base64
import ApiCompiler.Text.Case
import ApiCompiler.Text.CaseTable
import ApiCompiler.Text.Composed
import ApiCompiler.Text.Digits
import ApiCompiler.Text.Literal
import ApiCompiler.Text.Encoding
import ApiCompiler.Text.Identifier
import ApiCompiler.Text.Placeholder
import ApiCompiler.Text.Number
import ApiCompiler.Text.Printable
import ApiCompiler.Text.Ranges
import ApiCompiler.Text.Split
import ApiCompiler.Text.Surrogate
import ApiCompiler.Text.Wrap
import ApiCompiler.Transport
import ApiCompiler.Transport.Response
import ApiCompiler.Url
import ApiCompiler.Url.Percent
import ApiCompiler.Url.Target
import ApiCompiler.Value
import ApiCompiler.Value.Compact
import ApiCompiler.Value.Graph
import ApiCompiler.Value.Literal
import ApiCompiler.Yaml.Cursor
import ApiCompiler.Yaml.Fault
import ApiCompiler.Yaml.Reading
import ApiCompiler.Yaml.Node
import ApiCompiler.Yaml.NodeType
import ApiCompiler.Yaml.Scalar
import ApiCompiler.Yaml.ScalarText
import ApiCompiler.Yaml.Token
import ApiCompiler.Proofs.Compile
import ApiCompiler.Proofs.Compile.Procedure
import ApiCompiler.Proofs.Compile.Refusal
import ApiCompiler.Proofs.Document.Operation
import ApiCompiler.Proofs.Document.Reference
import ApiCompiler.Proofs.Model.Scope
import ApiCompiler.Proofs.Named
import ApiCompiler.Proofs.Naming.Assigned
import ApiCompiler.Proofs.Naming.Identifier
import ApiCompiler.Proofs.Naming.Pascal
import ApiCompiler.Proofs.Naming.Snake
import ApiCompiler.Proofs.Package.Attributes
import ApiCompiler.Proofs.Package.Binding
import ApiCompiler.Proofs.Package.Bindings
import ApiCompiler.Proofs.Package.Context
import ApiCompiler.Proofs.Package.Forwarding
import ApiCompiler.Proofs.Package.Generic
import ApiCompiler.Proofs.Package.Inputs
import ApiCompiler.Proofs.Package.Operations
import ApiCompiler.Proofs.Package.Router
import ApiCompiler.Proofs.Package.Shadowing
import ApiCompiler.Proofs.Registry.Consistency
import ApiCompiler.Proofs.Registry.Order
import ApiCompiler.Proofs.Report
import ApiCompiler.Proofs.Route
import ApiCompiler.Proofs.Route.Call
import ApiCompiler.Proofs.Route.Parameter
import ApiCompiler.Proofs.Route.Readable
import ApiCompiler.Proofs.Schema.Resolve
import ApiCompiler.Proofs.Text.Ascii
import ApiCompiler.Proofs.Model.Annotation
import ApiCompiler.Proofs.Model.ClassName
import ApiCompiler.Proofs.Package.AliasOrder
import ApiCompiler.Proofs.Package.Components
import ApiCompiler.Proofs.Files.Tree
import ApiCompiler.Proofs.Files.Volume
import ApiCompiler.Proofs.Files.Disk
import ApiCompiler.Proofs.Package.Install
import ApiCompiler.Proofs.Generation
import ApiCompiler.Proofs.Compile.InlineType
import ApiCompiler.Proofs.Route.Alike
import ApiCompiler.Proofs.Compile.Shared
import ApiCompiler.Proofs.Compile.Pushed
import ApiCompiler.Proofs.Package.Nullability
import ApiCompiler.Proofs.Text.Scan
import ApiCompiler.Proofs.Text.Snippet
import ApiCompiler.Proofs.Model.Clean
import ApiCompiler.Proofs.Package.Clean
import ApiCompiler.Proofs.Package.FreeText
import ApiCompiler.Proofs.Package.Literals
import ApiCompiler.Proofs.Registry.Independence
import ApiCompiler.Proofs.Package.Paths
import ApiCompiler.Proofs.Schema.Closed
import ApiCompiler.Proofs.Package.References
import ApiCompiler.Proofs.Document.NormalForm
import ApiCompiler.Proofs.Schema.Restrict
import ApiCompiler.Proofs.Route.Response
import ApiCompiler.Proofs.Model.Session
import ApiCompiler.Proofs.Package.AliasCycle
import ApiCompiler.Proofs.Model.Shadow
import ApiCompiler.Proofs.Model.Closed
import ApiCompiler.Proofs.Model.Forget
import ApiCompiler.Proofs.Model.FieldName
import ApiCompiler.Proofs.Schema.Range
import ApiCompiler.Proofs.Document.Pointer
import ApiCompiler.Proofs.Document.Chain
import ApiCompiler.Proofs.Route.Inlined
import ApiCompiler.Proofs.Package.Replacement
import ApiCompiler.Proofs.Retrieval
import ApiCompiler.Proofs.Package.TopLevel
import ApiCompiler.Proofs.Package.ClientName
import ApiCompiler.Proofs.Text.Docstring
import ApiCompiler.Proofs.CommandLine
import ApiCompiler.Proofs.Schema.Chain
