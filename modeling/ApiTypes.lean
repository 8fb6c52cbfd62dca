import ApiTypes.Keyed
import ApiTypes.Json.Parser
import ApiTypes.Json.Pointer
import ApiTypes.Json.Printer
import ApiTypes.Number.Shortest
import ApiTypes.Proofs.Json.Replace
import ApiTypes.Proofs.Module.AliasNames
import ApiTypes.Proofs.TypeExpr.NameClash
import ApiTypes.Text.Case
import ApiTypes.Text.Shown
import ApiTypes.Schema.Kind
import ApiTypes.TypeExpr.Basic
import ApiTypes.TypeExpr.Name
import ApiTypes.TypeExpr.Render
import ApiTypes.Schema.Type
import ApiTypes.Description.Method
import ApiTypes.Description.Template
import ApiTypes.Json.Record
import ApiTypes.Description.OpenApi
import ApiTypes.Description.Swagger
import ApiTypes.Description.Check
import ApiTypes.App.Framework
import ApiTypes.Model.Reduce
import ApiTypes.Module.App
import ApiTypes.Module.Combine
import ApiTypes.Yaml.Cursor
import ApiTypes.Yaml.Scalar.Block
import ApiTypes.Yaml.Scalar.Plain
import ApiTypes.Yaml.Scalar.Quoted
import ApiTypes.Yaml.Tag
import ApiTypes.Yaml.Token.Basic
import ApiTypes.Yaml.Token.Stream
import ApiTypes.Generate
import ApiTypes.Kdl.Basic
import ApiTypes.Kdl.Number
import ApiTypes.Kdl.Read
import ApiTypes.BuildFile
import ApiTypes.Command.Arguments
import ApiTypes.Command.Plan
import ApiTypes.Command.Program
import ApiTypes.Main
import ApiTypes.Proofs.App.Elysia
import ApiTypes.Proofs.App.PathParameters
import ApiTypes.Proofs.App.RouteTree
import ApiTypes.Proofs.App.NodePositions
import ApiTypes.Proofs.App.SegmentLookup
import ApiTypes.Proofs.App.SegmentTree
import ApiTypes.Proofs.Description.Check
import ApiTypes.Proofs.Description.Template
import ApiTypes.Proofs.Json.Pointer
import ApiTypes.Proofs.Json.Printer
import ApiTypes.Proofs.Json.Quote
import ApiTypes.Proofs.Json.Tree
import ApiTypes.Proofs.Keyed
import ApiTypes.Proofs.List
import ApiTypes.Proofs.Model.Declared
import ApiTypes.Proofs.Model.EffectiveBody
import ApiTypes.Proofs.Module.Containment
import ApiTypes.Proofs.Reference.Location
import ApiTypes.Proofs.Reference.Nested
import ApiTypes.Proofs.Reference.Unfolding
import ApiTypes.Proofs.Schema.Meaning
import ApiTypes.Proofs.Schema.Soundness
import ApiTypes.Proofs.Text.Brackets
import ApiTypes.Proofs.Text.Nesting
import ApiTypes.Proofs.TypeExpr.Contained
import ApiTypes.Proofs.TypeExpr.Name
import ApiTypes.Proofs.TypeExpr.Normal
import ApiTypes.Proofs.TypeExpr.Reader
import ApiTypes.Proofs.TypeExpr.Rendered
import ApiTypes.Proofs.TypeExpr.RoundTrip
import ApiTypes.Proofs.TypeExpr.Token
import ApiTypes.Proofs.TypeExpr.Writer
import ApiTypes.Proofs.App.ParameterMerge
import ApiTypes.Proofs.Reference.Kept
import ApiTypes.Proofs.Description.Paths
import ApiTypes.Proofs.App.Hono
import ApiTypes.Proofs.Schema.Through
import ApiTypes.Proofs.Model.Upgrade
import ApiTypes.Proofs.Reference.Shared
import ApiTypes.Proofs.Module.Aliases
import ApiTypes.Proofs.Files.Write
import ApiTypes.Proofs.Command.Build
import ApiTypes.Proofs.Reference.Dangling
import ApiTypes.Proofs.Description.Pieces
import ApiTypes.Proofs.Json.Atomic
import ApiTypes.Proofs.Schema.Exactness
import ApiTypes.Proofs.Description.FaultPointer
import ApiTypes.Proofs.Text.Lines
import ApiTypes.Proofs.Module.Combine
import ApiTypes.Proofs.Text.Printable
import ApiTypes.Proofs.TypeExpr.Indentation
import ApiTypes.Proofs.Module.AliasLines
import ApiTypes.Proofs.Model.MergedParameters
import ApiTypes.Proofs.BuildFile
import ApiTypes.Proofs.Yaml.Representation
import ApiTypes.Proofs.Reference.InPlace
